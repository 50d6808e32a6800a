import Mathlib.Data.List.Nodup
import NodeDecl.Proofs.Model.Fields

/-!
# The names of builder parameters

A parameter has the name of its field, with an underscore in front if that is a keyword.
The name that is made so is not looked at again: it may be the name of another parameter,
and it may itself be a keyword.  The names are usable exactly if neither happens and the
builder takes no field twice.
-/

namespace NodeDecl

namespace Config

variable {config : Config} {name : String}

theorem isKeyword_iff : config.isKeyword name = true ↔ name ∈ config.keywords :=
  List.contains_iff_mem

end Config

namespace KindDefinition

variable {definition : KindDefinition} {config : Config} {name field : String}
  {builder : List String}

theorem parameterName_of_keyword (keyword : field ∈ config.keywords) :
    parameterName config field = "_" ++ field :=
  if_pos (Config.isKeyword_iff.2 keyword)

theorem parameterName_of_not_keyword (other : field ∉ config.keywords) :
    parameterName config field = field :=
  if_neg fun keyword => other (Config.isKeyword_iff.1 keyword)

/-- Fields whose names an underscore sets apart from the keywords and from each other. -/
structure Separable (config : Config) (builder : List String) : Prop where
  distinct : builder.Nodup
  /-- No name that is made is the name of another field. -/
  fresh : ∀ field ∈ builder, field ∈ config.keywords → "_" ++ field ∉ builder
  /-- No name that is made is a keyword again. -/
  free : ∀ field ∈ builder, field ∈ config.keywords → "_" ++ field ∉ config.keywords

/-- A name is never the same behind an underscore. -/
theorem underscore_append_ne (field : String) : "_" ++ field ≠ field := by
  intro equal
  have lengths := congrArg String.length equal
  rw [String.length_append] at lengths
  exact absurd lengths (by simp)

/-- Separable fields give distinct names. -/
theorem Separable.nodup_names (separable : Separable config builder) :
    (builder.map (parameterName config)).Nodup := by
  apply separable.distinct.map_on
  intro left leftMember right rightMember equal
  by_cases leftKeyword : left ∈ config.keywords
  · by_cases rightKeyword : right ∈ config.keywords
    · rw [parameterName_of_keyword leftKeyword, parameterName_of_keyword rightKeyword] at equal
      exact String.append_right_inj "_" |>.1 equal
    · rw [parameterName_of_keyword leftKeyword, parameterName_of_not_keyword rightKeyword] at equal
      exact absurd (equal ▸ rightMember) (separable.fresh left leftMember leftKeyword)
  · by_cases rightKeyword : right ∈ config.keywords
    · rw [parameterName_of_not_keyword leftKeyword, parameterName_of_keyword rightKeyword] at equal
      exact absurd (equal ▸ leftMember) (separable.fresh right rightMember rightKeyword)
    · rwa [parameterName_of_not_keyword leftKeyword, parameterName_of_not_keyword rightKeyword]
        at equal

/-- Separable fields give no keyword for a name. -/
theorem Separable.not_keyword (separable : Separable config builder) (member : field ∈ builder) :
    parameterName config field ∉ config.keywords := by
  by_cases keyword : field ∈ config.keywords
  · rw [parameterName_of_keyword keyword]
    exact separable.free field member keyword
  · rwa [parameterName_of_not_keyword keyword]

/-- Only separable fields give distinct names without a keyword among them. -/
theorem separable_of_names (distinct : (builder.map (parameterName config)).Nodup)
    (free : ∀ field ∈ builder, parameterName config field ∉ config.keywords) :
    Separable config builder := by
  have made : ∀ field ∈ builder, field ∈ config.keywords → "_" ++ field ∉ config.keywords := by
    intro field member keyword
    have usable := free field member
    rwa [parameterName_of_keyword keyword] at usable
  refine ⟨distinct.of_map, ?_, made⟩
  intro field member keyword taken
  -- The field and the one that has the name already would share that name.
  have same : parameterName config ("_" ++ field) = parameterName config field := by
    rw [parameterName_of_not_keyword (made field member keyword),
      parameterName_of_keyword keyword]
  exact underscore_append_ne field (List.inj_on_of_nodup_map distinct taken member same)

theorem separable_iff :
    Separable config builder ↔
      (builder.map (parameterName config)).Nodup ∧
        ∀ used ∈ builder.map (parameterName config), used ∉ config.keywords := by
  rw [List.forall_mem_map]
  constructor
  · intro separable
    exact ⟨separable.nodup_names, fun field member => separable.not_keyword member⟩
  · rintro ⟨distinct, free⟩
    exact separable_of_names distinct free

/-- The names of the parameters are made from the entries of the builder. -/
theorem names_parameters (known : ∀ field ∈ definition.builder, field ∈ definition.fields.keys) :
    (definition.parameters config (definition.types config name)).map (·.name) =
      definition.builder.map (parameterName config) := by
  have named : ∀ entry ∈ definition.parameters config (definition.types config name),
      entry.name = parameterName config entry.field := by
    intro entry member
    obtain ⟨spec, -, equal⟩ := mem_parameters member
    rw [equal]
    rfl
  have fields :
      (definition.parameters config (definition.types config name)).map (·.field) =
        definition.builder :=
    parameters_eq known
  rw [← fields, List.map_map]
  exact List.map_congr_left named

end KindDefinition

namespace Registry

variable {registry : Registry} {config : Config} {model : Model}

/-- The parameters of a builder have distinct names and none of them is a keyword exactly if
the fields that the builder takes are separable. -/
theorem build_parameters_usable_iff (built : (registry.build config).outcome = .ok model) :
    ∀ kind ∈ model.kinds, ∃ definition,
      registry.kinds.get? kind.name = some definition ∧
      kind.builder.map (·.name) =
        definition.builder.map (KindDefinition.parameterName config) ∧
      ((kind.builder.map (·.name)).Nodup ∧
          (∀ used ∈ kind.builder.map (·.name), used ∉ config.keywords) ↔
        KindDefinition.Separable config definition.builder) := by
  obtain ⟨sound, rfl⟩ := build_eq_ok_iff.1 built
  rw [firstFault?_eq_none_iff] at sound
  intro kind member
  obtain ⟨definition, found, equal⟩ := mem_kinds_resolved.1 member
  have known := (sound _ _ (OrderedMap.get?_eq_some_iff.1 found)).complete
  have names : kind.builder.map (·.name) =
      definition.builder.map (KindDefinition.parameterName config) := by
    rw [equal]
    exact KindDefinition.names_parameters known
  refine ⟨definition, found, names, ?_⟩
  rw [names]
  exact KindDefinition.separable_iff.symm

/-- Two keywords, and a field that begins with an underscore without being in the way. -/
theorem build_parameters_usable_of_underscore :
    let leaf : KindDefinition :=
      { builder := ["static", "_value", "extends"]
        fields := { entries := [("static", {}), ("_value", {}), ("extends", {})] } }
    let registry : Registry := { kinds := { entries := [("Leaf", leaf)] } }
    ∃ model, (registry.build {}).outcome = .ok model ∧
      model.kinds.map (fun kind => kind.builder.map (·.name)) =
        [["_static", "_value", "_extends"]] ∧
      ∀ kind ∈ model.kinds, (kind.builder.map (·.name)).Nodup ∧
        ∀ used ∈ kind.builder.map (·.name), used ∉ ["extends", "arguments", "static"] := by
  intro leaf registry
  have built : (registry.build {}).outcome = .ok (registry.resolved {}) :=
    build_eq_ok_iff.2 ⟨by decide +kernel, rfl⟩
  refine ⟨_, built, by decide +kernel, ?_⟩
  intro kind member
  obtain ⟨definition, found, -, usable⟩ := build_parameters_usable_iff built kind member
  obtain ⟨-, rfl⟩ := Prod.mk.inj (List.mem_singleton.1 (OrderedMap.get?_eq_some_iff.1 found))
  exact usable.2 ⟨by decide, by decide, by decide⟩

/-- Setting `static` apart leads to the name of the next parameter, and setting `arguments`
apart leads to another keyword. -/
theorem build_parameters_clash :
    let leaf : KindDefinition :=
      { builder := ["static", "_static", "arguments"]
        fields := { entries := [("static", {}), ("_static", {}), ("arguments", {})] } }
    let registry : Registry := { kinds := { entries := [("Leaf", leaf)] } }
    let config : Config := { keywords := ["static", "arguments", "_arguments"] }
    ∃ model, (registry.build config).outcome = .ok model ∧
      model.kinds.map (fun kind => kind.builder.map (·.name)) =
        [["_static", "_static", "_arguments"]] ∧
      ∃ kind ∈ model.kinds, ¬ (kind.builder.map (·.name)).Nodup ∧
        ∃ used ∈ kind.builder.map (·.name), used ∈ config.keywords := by
  intro leaf registry config
  have built : (registry.build config).outcome = .ok (registry.resolved config) :=
    build_eq_ok_iff.2 ⟨by decide +kernel, rfl⟩
  have kinds : (registry.resolved config).kinds = [leaf.resolved config "Leaf"] := by
    rw [resolved, sorted_eq (List.Perm.refl _) (List.pairwise_singleton _ _)]
    rfl
  have names : (leaf.resolved config "Leaf").builder.map (·.name) =
      ["_static", "_static", "_arguments"] := by
    decide +kernel
  refine ⟨_, built, by rw [kinds, List.map_singleton, names], leaf.resolved config "Leaf",
    by simp [kinds], ?_⟩
  rw [names]
  exact ⟨by decide, "_arguments", by decide, by decide⟩

end Registry

end NodeDecl
