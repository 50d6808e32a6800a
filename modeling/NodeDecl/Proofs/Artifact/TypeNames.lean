import Mathlib.Data.List.Nodup
import NodeDecl.Proofs.Artifact.Generation
import NodeDecl.Proofs.Model.Groups

/-!
# The type names of the catalogue

The catalogue declares the type of positions, a class for each kind and a union for
each alias group, all of them at top level.  The names of these declarations are read
back from their opening lines.  They are distinct exactly if no kind is named as a
group and no name comes out as the one of positions; the checks of a build, which look
at each name alone, ensure neither.
-/

namespace NodeDecl

namespace Catalogue

/-! ## Reading declarations -/

/-- What stands between a front and a back of a text, if the text has both. -/
def between? (front back text : String) : Option String :=
  ((text.toList.dropPrefix? front.toList).bind (·.dropSuffix? back.toList)).map String.ofList

/-- The type name that a piece of a catalogue declares: a type on one line, a class or
a union. -/
def declaredName? : Layout → Option String
  | .line text =>
      (text.toList.dropPrefix? "type ".toList).map fun rest =>
        String.ofList (rest.takeWhile (· ≠ ' '))
  | .blank => none
  | .block opening _ _ =>
      (between? "declare class " " \x7b" opening).or (between? "type " " = (" opening)

/-- The type names that are declared at top level, in order. -/
def declaredNames (pieces : List Layout) : List String :=
  pieces.filterMap declaredName?

theorem between?_append (front back text : String) :
    between? front back (front ++ text ++ back) = some text := by
  have rest : (front ++ text ++ back).toList.dropPrefix? front.toList =
      some (text.toList ++ back.toList) := by
    rw [List.dropPrefix?_eq_some_iff]
    exact ⟨front.toList, by simp [List.append_assoc], beq_self_eq_true _⟩
  have middle : (text.toList ++ back.toList).dropSuffix? back.toList = some text.toList := by
    rw [List.dropSuffix?_eq_some_iff]
    exact ⟨back.toList, rfl, beq_self_eq_true _⟩
  rw [between?, rest, Option.bind_some, middle, Option.map_some, String.ofList_toList]

section

variable {front back text : String}

theorem between?_eq_some_iff {between : String} :
    between? front back text = some between ↔ text = front ++ between ++ back := by
  constructor
  · intro read
    rcases Option.map_eq_some_iff.1 read with ⟨chars, found, rfl⟩
    rcases Option.bind_eq_some_iff.1 found with ⟨rest, hasFront, hasBack⟩
    rcases List.dropPrefix?_eq_some_iff.1 hasFront with ⟨first, whole, sameFront⟩
    rcases List.dropSuffix?_eq_some_iff.1 hasBack with ⟨last, inner, sameBack⟩
    apply String.toList_inj.1
    rw [whole, inner, beq_iff_eq.1 sameFront, beq_iff_eq.1 sameBack]
    simp
  · rintro rfl
    exact between?_append front back between

/-- A text that begins otherwise than a front does not have it. -/
theorem between?_eq_none {c : Char} (begins : front.toList.head? = some c)
    (differ : text.toList.head? ≠ some c) : between? front back text = none := by
  rw [Option.eq_none_iff_forall_ne_some]
  intro between read
  rw [between?_eq_some_iff.1 read, String.toList_append, String.toList_append, List.append_assoc,
    List.head?_append, begins] at differ
  exact differ rfl

/-- A text that ends otherwise than a back does not have it. -/
theorem between?_eq_none_of_getLast? {c : Char} (ends : back.toList.getLast? = some c)
    (differ : text.toList.getLast? ≠ some c) : between? front back text = none := by
  rw [Option.eq_none_iff_forall_ne_some]
  intro between read
  rw [between?_eq_some_iff.1 read, String.toList_append, List.getLast?_append, ends] at differ
  exact differ rfl

/-- What stands between a front and a back is read back from each of some texts. -/
theorem filterMap_between? {texts : List String} {whole : String → String}
    (parts : ∀ text ∈ texts, whole text = front ++ text ++ back) :
    (texts.map whole).filterMap (between? front back) = texts := by
  have read : ∀ text ∈ texts, (between? front back ∘ whole) text = some (id text) :=
    fun text member => between?_eq_some_iff.2 (parts text member)
  rw [List.filterMap_map, List.filterMap_eq_map_iff_forall_eq_some.2 read, List.map_id]

end

/-- A union does not begin as a class does. -/
theorem between?_class_of_union (name : String) :
    between? "declare class " " \x7b" ("type " ++ name ++ " = (") = none :=
  between?_eq_none (c := 'd') rfl (by simp)

theorem declaredName?_class (suffix : String) (kind : Kind) :
    declaredName? (classLayout suffix kind) = some (kind.name ++ suffix) := by
  have opening : "declare class " ++ kind.name ++ suffix ++ " \x7b" =
      "declare class " ++ (kind.name ++ suffix) ++ " \x7b" := by
    simp only [String.append_assoc]
  rw [classLayout, declaredName?, opening, between?_append, Option.some_or]

theorem declaredName?_union (suffix : String) (group : String × List String) :
    declaredName? (unionLayout suffix group) = some (group.1 ++ suffix) := by
  have opening : "type " ++ group.1 ++ suffix ++ " = (" =
      "type " ++ (group.1 ++ suffix) ++ " = (" := by
    simp only [String.append_assoc]
  rw [unionLayout, declaredName?, opening, between?_class_of_union, between?_append,
    Option.none_or]

/-- Declarations with blank lines between them. -/
theorem declaredNames_spaced {α : Type} (declaration : α → Layout) (name : α → String)
    (named : ∀ value, declaredName? (declaration value) = some (name value)) (values : List α) :
    declaredNames (values.flatMap fun value => [declaration value, .blank]) =
      values.map name := by
  induction values with
  | nil => rfl
  | cons value rest ih =>
      rw [declaredNames] at ih ⊢
      rw [List.flatMap_cons, List.filterMap_append, ih, List.filterMap_cons_some (named value)]
      rfl

/-- Without further lines, a catalogue declares the type of positions, the kinds and the
groups, in this order. -/
theorem declaredNames_layout (model : Model) {config : Config}
    (bare : config.catalogueTrailer = []) :
    declaredNames (layout model config) =
      "Location" :: (model.kinds.map (·.name) ++ model.groups.keys).map
        (· ++ config.nodeSuffix) := by
  have classes := declaredNames_spaced (classLayout config.nodeSuffix) _
    (declaredName?_class config.nodeSuffix) model.kinds
  have unions := declaredNames_spaced (unionLayout config.nodeSuffix) _
    (declaredName?_union config.nodeSuffix) model.groups.entries
  have head : declaredNames
      [.line "// @flow", .line generatedBy, .blank, .line location, .blank] = ["Location"] := by
    decide +kernel
  rw [declaredNames] at classes unions head ⊢
  rw [layout, bare, List.map_nil, List.append_nil, List.filterMap_append, List.filterMap_append,
    head, classes, unions, SortedMap.keys]
  simp [List.map_map, Function.comp_def]

/-! ## Distinct names -/

/-- Names for which no type is declared twice. -/
structure NamesApart (model : Model) (config : Config) : Prop where
  /-- No kind is named as a group. -/
  kinds_groups : ∀ kind ∈ model.kinds, kind.name ∉ model.groups.keys
  /-- No kind or group takes the name of positions. -/
  location : ∀ name ∈ model.typeNames, name ++ config.nodeSuffix ≠ "Location"

theorem nodup_declaredNames_iff {model : Model} {config : Config}
    (kindsNodup : (model.kinds.map (·.name)).Nodup) (bare : config.catalogueTrailer = []) :
    (declaredNames (layout model config)).Nodup ↔ NamesApart model config := by
  have suffixed : Function.Injective (· ++ config.nodeSuffix) := fun _ _ equal =>
    (String.append_left_inj _).1 equal
  rw [declaredNames_layout model bare, List.nodup_cons, List.nodup_map_iff suffixed,
    List.nodup_append]
  constructor
  · intro distinct
    rcases distinct with ⟨fresh, -, -, apart⟩
    constructor
    case kinds_groups =>
      intro kind member inGroups
      exact apart kind.name (List.mem_map_of_mem member) kind.name inGroups rfl
    case location =>
      intro name member equal
      rw [Model.mem_typeNames, ← List.mem_append] at member
      exact fresh (List.mem_map.2 ⟨name, member, equal⟩)
  · intro apart
    refine ⟨?_, kindsNodup, model.groups.keys_nodup, ?_⟩
    · intro taken
      rcases List.mem_map.1 taken with ⟨name, member, equal⟩
      exact apart.location name (Model.mem_typeNames.2 (List.mem_append.1 member)) equal
    · intro name inKinds other inGroups equal
      rcases List.mem_map.1 inKinds with ⟨kind, member, rfl⟩
      exact apart.kinds_groups kind member (equal ▸ inGroups)

end Catalogue

namespace Registry

variable {registry : Registry} {config : Config} {generation : Generation}

/-- The catalogue declares every type name once exactly if the names of kinds and groups
are apart.  No union is an arm of itself exactly if no kind is its own alias. -/
theorem generate_declares_once_iff (made : (registry.generate config).outcome = .ok generation)
    (bare : config.catalogueTrailer = []) :
    let pieces := Catalogue.layout generation.model config
    generation.artifacts.catalogue = Layout.render pieces ∧
      Catalogue.declaredNames pieces =
        "Location" :: (generation.model.kinds.map (·.name) ++ generation.model.groups.keys).map
          (· ++ config.nodeSuffix) ∧
      ((Catalogue.declaredNames pieces).Nodup ↔
        Catalogue.NamesApart generation.model config) ∧
      ((∀ group, ¬ generation.model.HasMember group group) ↔
        ∀ kind ∈ generation.model.kinds, kind.name ∉ kind.aliases) := by
  rcases generate_eq_ok_iff.1 made with ⟨built, artifacts⟩
  have distinct : (generation.model.kinds.map (·.name)).Nodup :=
    nodup_of_increasing (List.pairwise_map.2 (build_increasing built))
  refine ⟨?_, Catalogue.declaredNames_layout _ bare,
    Catalogue.nodup_declaredNames_iff distinct bare, ?_⟩
  · rw [artifacts]
    rfl
  · rw [(build_eq_ok_iff.1 built).2]
    simp only [hasMember_resolved_iff, Model.HasAlias]
    constructor
    · intro apart kind member own
      exact apart kind.name ⟨kind, member, rfl, own⟩
    · intro apart group given
      rcases given with ⟨kind, member, rfl, own⟩
      exact apart kind member own

/-- A kind with an alias of its own and a suffix that, behind another name, would give the
type of positions. -/
theorem generate_declares_once_of_leaf :
    let registry : Registry := { kinds := { entries := [("Leaf", { aliases := ["Shared"] })] } }
    let config : Config := { nodeSuffix := "tion", universalAlias := "Any" }
    ∃ generation, (registry.generate config).outcome = .ok generation ∧
      config.catalogueTrailer = [] ∧
      (Catalogue.declaredNames (Catalogue.layout generation.model config)).Nodup := by
  intro registry config
  have made := generate_eq_ok registry config (by decide +kernel)
  have apart : Catalogue.NamesApart (registry.resolved config) config :=
    ⟨by decide +kernel, by decide +kernel⟩
  exact ⟨_, made, rfl, (generate_declares_once_iff made rfl).2.2.1.2 apart⟩

/-- A kind that has itself as an alias is declared twice, as a class and as a union that is
an arm of itself. -/
theorem generate_declares_twice :
    let registry : Registry :=
      { kinds := { entries := [("Identifier", { aliases := ["Identifier"] })] } }
    ∃ generation, (registry.generate {}).outcome = .ok generation ∧
      Catalogue.declaredNames (Catalogue.layout generation.model {}) =
        ["Location", "IdentifierNode", "BabelNode", "IdentifierNode"] ∧
      ¬ (Catalogue.declaredNames (Catalogue.layout generation.model {})).Nodup ∧
      generation.model.HasMember "Identifier" "Identifier" := by
  intro registry
  have made := generate_eq_ok registry {} (by decide +kernel)
  have names : Catalogue.declaredNames (Catalogue.layout (registry.resolved {}) {}) =
      ["Location", "IdentifierNode", "BabelNode", "IdentifierNode"] := by
    decide +kernel
  have repeated :
      ¬ (Catalogue.declaredNames (Catalogue.layout (registry.resolved {}) {})).Nodup := by
    rw [names]
    decide
  exact ⟨_, made, names, repeated, ["Identifier"], by decide +kernel, List.mem_singleton_self _⟩

end Registry

end NodeDecl
