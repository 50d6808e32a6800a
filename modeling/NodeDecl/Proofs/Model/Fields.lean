import NodeDecl.Proofs.Model.Acceptance
import NodeDecl.Proofs.Model.Groups
import NodeDecl.Proofs.Schema.Loading
import NodeDecl.Proofs.Schema.RoundTrip

/-!
# Fields and builder parameters

A kind says twice what its fields are: the declaration lists them in an order of its own
and without the reserved one, and the builder lists those that it takes.  Both lists come
from the same specifications, so they agree wherever they speak of the same field.  A
builder may take a field twice, and it may take the reserved one.
-/

namespace NodeDecl

namespace Kind

/-- The fields and the builder parameters of a kind are those that its definition calls
for. -/
structure Covers (kind : Kind) (definition : KindDefinition) (config : Config) : Prop where
  /-- The fields are those of the definition but the reserved one, each with the type and
  the flag of its specification. -/
  fields_perm :
    (kind.fields.map fun field => (field.name, field.type, field.optional)).Perm
      ((definition.fields.entries.filter fun entry => entry.1 ≠ config.reservedField).map
        fun entry => (entry.1, entry.2.typeOf config kind.name entry.1, entry.2.optional))
  /-- There is one parameter for each entry of the builder, in the same order. -/
  builder_fields : kind.builder.map (·.field) = definition.builder
  /-- A parameter may be left out exactly if its field may be or has a default. -/
  parameter_optional : ∀ parameter ∈ kind.builder, ∃ spec,
    definition.fields.get? parameter.field = some spec ∧
      (parameter.optional = true ↔ spec.optional = true ∨ ∃ value, spec.default = some value)
  /-- A parameter for a field that is not reserved has exactly one field beside it, with
  the same type; where that field may be left out, so may the parameter. -/
  agree : ∀ parameter ∈ kind.builder, parameter.field ≠ config.reservedField →
    ∃ field, (kind.fields.filter fun field => field.name = parameter.field) = [field] ∧
      field.type = parameter.type ∧ field.rendered = parameter.rendered ∧
      (field.optional = true → parameter.optional = true)
  fields_rendered : ∀ field ∈ kind.fields, field.rendered = field.type.render config.nodeSuffix
  builder_rendered : ∀ parameter ∈ kind.builder,
    parameter.rendered = parameter.type.render config.nodeSuffix

end Kind

namespace KindDefinition

variable {definition : KindDefinition} {config : Config} {name : String}

/-- The fields of a declaration are those of the definition in another order. -/
theorem resolvedFields_perm (definition : KindDefinition) (config : Config) (name : String) :
    (definition.resolvedFields config (definition.types config name)).Perm
      ((definition.fields.entries.filter fun entry => entry.1 ≠ config.reservedField).map
        (resolvedField config name)) := by
  rw [resolvedFields_eq]
  exact (definition.orderedFields_perm.filter _).map _

/-- No declaration has two fields of one name. -/
theorem nodup_names_resolvedFields (definition : KindDefinition) (config : Config)
    (name : String) :
    ((definition.resolvedFields config (definition.types config name)).map (·.name)).Nodup := by
  have distinct : (definition.orderedFields.map (·.1)).Nodup :=
    (definition.orderedFields_perm.map (·.1)).nodup_iff.2 definition.fields.keys_nodup
  rw [resolvedFields_eq, List.map_map]
  exact distinct.sublist (List.filter_sublist.map _)

theorem mem_resolvedFields {field : ResolvedField} :
    field ∈ definition.resolvedFields config (definition.types config name) ↔
      ∃ spec, definition.fields.get? field.name = some spec ∧
        field.name ≠ config.reservedField ∧
          resolvedField config name (field.name, spec) = field := by
  rw [(resolvedFields_perm definition config name).mem_iff]
  simp only [List.mem_map, List.mem_filter, decide_eq_true_eq, OrderedMap.get?_eq_some_iff]
  constructor
  · rintro ⟨entry, ⟨member, other⟩, rfl⟩
    exact ⟨entry.2, member, other, rfl⟩
  · rintro ⟨spec, member, other, equal⟩
    exact ⟨(field.name, spec), ⟨member, other⟩, equal⟩

/-- If the builder takes only fields that are there, it has one parameter for each. -/
theorem parameters_eq (known : ∀ field ∈ definition.builder, field ∈ definition.fields.keys) :
    (definition.parameters config (definition.types config name)).map (·.field) =
      definition.builder := by
  have found : ∀ field ∈ definition.builder,
      ((definition.fields.get? field).map (resolvedParameter config name field)).map (·.field) =
        some field := by
    intro field member
    obtain ⟨spec, entry⟩ := OrderedMap.mem_keys_iff.1 (known field member)
    rw [OrderedMap.get?_eq_some_iff.2 entry]
    rfl
  rw [parameters_eq_filterMap, List.map_filterMap, List.filterMap_eq_map_iff_forall_eq_some.2 found,
    List.map_id']

theorem mem_parameters {entry : Parameter}
    (member : entry ∈ definition.parameters config (definition.types config name)) :
    ∃ spec, definition.fields.get? entry.field = some spec ∧
      entry = resolvedParameter config name entry.field spec := by
  rw [parameters_eq_filterMap] at member
  obtain ⟨field, -, made⟩ := List.mem_filterMap.1 member
  obtain ⟨spec, found, rfl⟩ := Option.map_eq_some_iff.1 made
  exact ⟨spec, found, rfl⟩

/-- Of values with distinct names, one that is there is the only one of its name. -/
theorem filter_name_eq_singleton {fields : List ResolvedField}
    (distinct : (fields.map (·.name)).Nodup) {field : ResolvedField} (member : field ∈ fields) :
    (fields.filter fun other => other.name = field.name) = [field] := by
  induction fields with
  | nil => contradiction
  | cons first rest ih =>
      rw [List.map_cons, List.nodup_cons] at distinct
      cases List.mem_cons.1 member with
      | inl equal =>
          subst equal
          have others : (rest.filter fun other => other.name = field.name) = [] := by
            rw [List.filter_eq_nil_iff]
            intro other inRest same
            exact distinct.1 (List.mem_map.2 ⟨other, inRest, of_decide_eq_true same⟩)
          rw [List.filter_cons_of_pos (by simp), others]
      | inr inRest =>
          have differ : first.name ≠ field.name := by
            intro same
            exact distinct.1 (same ▸ List.mem_map_of_mem inRest)
          rw [List.filter_cons_of_neg (by simpa using differ), ih distinct.2 inRest]

/-- A kind that is resolved without fault covers its definition. -/
theorem covers_resolved (known : ∀ field ∈ definition.builder, field ∈ definition.fields.keys) :
    (definition.resolved config name).Covers definition config := by
  constructor
  case fields_perm =>
    have image := (resolvedFields_perm definition config name).map
      fun field => (field.name, field.type, field.optional)
    rwa [List.map_map] at image
  case builder_fields => exact parameters_eq known
  case parameter_optional =>
    intro entry member
    obtain ⟨spec, found, equal⟩ := mem_parameters member
    refine ⟨spec, found, ?_⟩
    rw [equal]
    simp [resolvedParameter, parameter, FieldSpec.hasDefault, Option.isSome_iff_exists]
  case agree =>
    intro entry member other
    obtain ⟨spec, found, equal⟩ := mem_parameters member
    let field := resolvedField config name (entry.field, spec)
    have listed : field ∈ definition.resolvedFields config (definition.types config name) :=
      mem_resolvedFields.2 ⟨spec, found, other, rfl⟩
    refine ⟨field, filter_name_eq_singleton (nodup_names_resolvedFields ..) listed, ?_⟩
    rw [equal]
    exact ⟨rfl, rfl, fun optional => Bool.or_eq_true_iff.2 (.inl optional)⟩
  case fields_rendered =>
    intro field member
    obtain ⟨spec, -, -, equal⟩ := mem_resolvedFields.1 member
    rw [← equal]
    rfl
  case builder_rendered =>
    intro entry member
    obtain ⟨spec, -, equal⟩ := mem_parameters member
    rw [equal]
    rfl

end KindDefinition

namespace Registry

variable {registry : Registry} {config : Config} {model : Model}

/-- A registry that comes from a document, or from several files. -/
def IsRead (registry : Registry) : Prop :=
  (∃ text origin, parse text origin = .ok registry) ∨
    ∃ paths session last,
      (load paths : Action (StateM Session) Registry).on session = (.ok registry, last)

/-- The definitions of a registry that comes from documents can be written there. -/
theorem IsRead.storable (read : registry.IsRead) :
    registry.Storable (Json.nestingLimit - 5) := by
  have parsed : ∀ {part : Registry} {text origin : String}, parse text origin = .ok part →
      part.Storable (Json.nestingLimit - 5) := by
    intro part text origin accepted
    obtain ⟨rest, run⟩ := parse_eq_ok_iff.1 accepted
    exact Registry.reader_yields 122 _ _ _ run
  cases read with
  | inl document =>
      obtain ⟨text, origin, accepted⟩ := document
      exact parsed accepted
  | inr files =>
      obtain ⟨paths, session, last, loaded⟩ := files
      intro entry member
      rw [entries_of_load loaded, List.mem_flatMap] at member
      obtain ⟨path, -, defined⟩ := member
      obtain ⟨text, part, accepted, inPart⟩ := FileTree.parse_of_mem_definitions defined
      exact parsed accepted entry inPart

/-- A registry that comes from documents has no `null` for a default. -/
theorem IsRead.default_ne_null (read : registry.IsRead) {name field : String}
    {definition : KindDefinition} {spec : FieldSpec}
    (defined : registry.kinds.get? name = some definition)
    (specified : definition.fields.get? field = some spec) : spec.default ≠ some .null := by
  have ofKind := read.storable _ (OrderedMap.get?_eq_some_iff.1 defined)
  have ofField := ofKind _ (OrderedMap.get?_eq_some_iff.1 specified)
  intro null
  exact (ofField.default .null null).2 rfl

/-- Every kind of a model covers its definition, and every definition has its kind.  In
registries that come from documents a default is never `null`, so there a parameter may be
left out exactly if its field may be or has a default other than `null`. -/
theorem build_covers (built : (registry.build config).outcome = .ok model) :
    (∀ kind ∈ model.kinds, ∃ definition,
      registry.kinds.get? kind.name = some definition ∧ kind.Covers definition config) ∧
    (∀ name ∈ registry.kinds.keys, name ∈ model.kinds.map (·.name)) ∧
    (registry.IsRead → ∀ name definition field spec,
      registry.kinds.get? name = some definition → definition.fields.get? field = some spec →
        spec.default ≠ some .null) := by
  obtain ⟨sound, rfl⟩ := build_eq_ok_iff.1 built
  rw [firstFault?_eq_none_iff] at sound
  refine ⟨?_, ?_, ?_⟩
  · intro kind member
    obtain ⟨definition, found, equal⟩ := mem_kinds_resolved.1 member
    have known := (sound _ _ (OrderedMap.get?_eq_some_iff.1 found)).complete
    refine ⟨definition, found, ?_⟩
    rw [equal]
    exact KindDefinition.covers_resolved known
  · intro name member
    obtain ⟨definition, defined⟩ := OrderedMap.mem_keys_iff.1 member
    have isKind : definition.resolved config name ∈ (registry.resolved config).kinds :=
      mem_kinds_resolved.2 ⟨definition, OrderedMap.get?_eq_some_iff.2 defined, rfl⟩
    exact List.mem_map.2 ⟨_, isKind, rfl⟩
  · intro read name definition field spec defined specified
    exact read.default_ne_null defined specified

/-- A builder that takes the reserved field and another one twice, and defaults that are
`null` and `false`. -/
theorem build_covers_of_leaf :
    let document := "\x7b\"nodes\": \x7b\"Leaf\": \x7b\"builder\": [\"static\", \"value\", " ++
      "\"value\"], \"fields\": \x7b\"other\": \x7b\"optional\": true\x7d, \"value\": " ++
      "\x7b\"default\": null\x7d, \"static\": \x7b\"default\": false\x7d\x7d\x7d\x7d\x7d"
    let leaf : KindDefinition :=
      { builder := ["static", "value", "value"]
        fields := { entries :=
          [("other", { optional := true }), ("value", {}),
            ("static", { default := some (.bool false) })] } }
    let registry : Registry := { kinds := { entries := [("Leaf", leaf)] } }
    ∃ model, parse document "leaf.json" = .ok registry ∧
      (registry.build {}).outcome = .ok model ∧
      model.kinds.map (fun kind => kind.fields.map fun field => (field.name, field.optional)) =
        [[("value", false), ("other", true)]] ∧
      model.kinds.map (fun kind => kind.builder.map fun entry => (entry.field, entry.optional)) =
        [[("static", true), ("value", false), ("value", false)]] ∧
      (∀ kind ∈ model.kinds, kind.Covers leaf {}) ∧
      ∀ field spec, leaf.fields.get? field = some spec → spec.default ≠ some .null := by
  intro document leaf registry
  have accepted : parse document "leaf.json" = .ok registry := by decide +kernel
  have built : (registry.build {}).outcome = .ok (registry.resolved {}) :=
    build_eq_ok_iff.2 ⟨by decide +kernel, rfl⟩
  have ordered : leaf.orderedFields = leaf.fields.entries.reverse :=
    KindDefinition.orderedFields_eq (List.reverse_perm _) (by decide +kernel)
  have kinds : (registry.resolved {}).kinds = [leaf.resolved {} "Leaf"] := by
    rw [resolved, sorted_eq (List.Perm.refl _) (List.pairwise_singleton _ _)]
    rfl
  have fields : (registry.resolved {}).kinds.map
      (fun kind => kind.fields.map fun field => (field.name, field.optional)) =
        [[("value", false), ("other", true)]] := by
    rw [kinds, List.map_singleton, KindDefinition.resolved, KindDefinition.resolvedFields, ordered]
    decide +kernel
  obtain ⟨covers, -, notNull⟩ := build_covers built
  refine ⟨_, accepted, built, fields, by decide +kernel, ?_, ?_⟩
  · intro kind member
    obtain ⟨definition, found, covered⟩ := covers kind member
    obtain ⟨-, rfl⟩ := Prod.mk.inj (List.mem_singleton.1 (OrderedMap.get?_eq_some_iff.1 found))
    exact covered
  · intro field spec specified
    exact notNull (.inl ⟨_, _, accepted⟩) "Leaf" leaf field spec rfl specified

end Registry

end NodeDecl
