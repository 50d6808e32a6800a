import NodeDecl.Artifact
import NodeDecl.Proofs.Model.Acceptance
import NodeDecl.Proofs.Model.Groups
import NodeDecl.Proofs.Text.LowerCase

/-!
# What a generation holds

A registry generates something exactly if it has a model, and then the texts are those
of the model.  The names that the texts are about are the kinds and the alias groups,
and all of them are identifiers.
-/

namespace NodeDecl

namespace Registry

variable {registry : Registry} {config : Config}

/-- What is generated from a registry follows its model. -/
theorem generate_eq (registry : Registry) (config : Config) :
    registry.generate config =
      { warnings := (warningBlocks config registry.sorted).flatMap (·.2)
        outcome :=
          match firstFault? config registry.sorted with
          | some error => .error error
          | none =>
              let model := registry.resolved config
              .ok { model, artifacts := .ofModel model config } } := by
  rw [Registry.generate]
  cases fault : firstFault? config registry.sorted with
  | some error =>
      have stopped : (registry.build config).outcome = .error error := by
        rw [build_eq, fault]
      rw [Build.bind_of_error stopped, build_eq]
  | none =>
      have done : (registry.build config).outcome = .ok (registry.resolved config) := by
        rw [build_eq, fault]
      rw [Build.bind_of_ok done, build_eq]
      simp

/-- A generation that succeeds holds the model of the registry and its texts. -/
theorem generate_eq_ok_iff {generation : Generation} :
    (registry.generate config).outcome = .ok generation ↔
      (registry.build config).outcome = .ok generation.model ∧
        generation.artifacts = .ofModel generation.model config := by
  rw [generate_eq, build_eq]
  cases firstFault? config registry.sorted with
  | some error => simp
  | none =>
      simp only [Except.ok.injEq]
      constructor
      · intro equal
        subst equal
        exact ⟨rfl, rfl⟩
      · intro ⟨sameModel, sameArtifacts⟩
        rcases generation with ⟨model, artifacts⟩
        subst sameModel
        exact congrArg (Generation.mk _) sameArtifacts.symm

/-- What a registry without fault generates. -/
def generated (registry : Registry) (config : Config) : Generation where
  model := registry.resolved config
  artifacts := .ofModel (registry.resolved config) config

theorem generate_eq_ok (registry : Registry) (config : Config)
    (sound : firstFault? config registry.sorted = none) :
    (registry.generate config).outcome = .ok (registry.generated config) :=
  generate_eq_ok_iff.2 ⟨build_eq_ok_iff.2 ⟨sound, rfl⟩, rfl⟩

end Registry

namespace Model

variable {model : Model}

@[simp] theorem mem_typeNames {name : String} :
    name ∈ model.typeNames ↔
      name ∈ model.kinds.map (·.name) ∨ name ∈ model.groups.keys := by
  rw [typeNames, mem_sortedNames, List.mem_append]

theorem typeNames_increasing (model : Model) : model.typeNames.Pairwise (· < ·) :=
  sortedNames_increasing _

theorem typeNames_nodup (model : Model) : model.typeNames.Nodup :=
  sortedNames_nodup _

/-- The kinds and groups of a model are named by identifiers, and kinds are the members of
its groups. -/
structure Named (model : Model) : Prop where
  isIdentifier : ∀ name ∈ model.typeNames, isIdentifier name = true
  isKind : ∀ group ∈ model.groups.entries, ∀ member ∈ group.2, member ∈ model.kinds.map (·.name)

namespace Named

variable {name : String} (named : model.Named)

include named

theorem kind (member : name ∈ model.kinds.map (·.name)) : NodeDecl.isIdentifier name = true :=
  named.isIdentifier name (mem_typeNames.2 (.inl member))

theorem group (member : name ∈ model.groups.keys) : NodeDecl.isIdentifier name = true :=
  named.isIdentifier name (mem_typeNames.2 (.inr member))

theorem builder (member : name ∈ model.kinds.map (·.name)) :
    NodeDecl.isIdentifier (Text.lowerFirst name) = true :=
  Text.isIdentifier_lowerFirst (named.kind member)

end Named

end Model

namespace Registry

variable {registry : Registry} {config : Config} {model : Model}

/-- The names of a model are identifiers. -/
theorem isIdentifier_of_mem_typeNames (built : (registry.build config).outcome = .ok model)
    {name : String} (member : name ∈ model.typeNames) : isIdentifier name = true := by
  rcases build_eq_ok_iff.1 built with ⟨sound, rfl⟩
  rw [firstFault?_eq_none_iff] at sound
  apply isIdentifier_iff.2
  rcases Model.mem_typeNames.1 member with isKind | isGroup
  · rcases List.mem_map.1 isKind with ⟨kind, inKinds, rfl⟩
    rcases mem_kinds_resolved.1 inKinds with ⟨definition, found, -⟩
    exact (sound _ _ (OrderedMap.get?_eq_some_iff.1 found)).named
  · rcases SortedMap.mem_keys_iff.1 isGroup with ⟨members, found⟩
    rcases List.exists_mem_of_ne_nil _ (get?_groups_eq_some_iff.1 found).2 with
      ⟨kindName, inGroup⟩
    rcases hasAlias_resolved_iff.1 (hasMember_resolved_iff.1 ⟨members, found, inGroup⟩) with
      ⟨definition, bound, having⟩
    apply (sound _ _ (OrderedMap.get?_eq_some_iff.1 bound)).grouped
    rwa [List.mem_append, List.mem_singleton]

/-- The members of a group are kinds. -/
theorem mem_kinds_of_member (built : (registry.build config).outcome = .ok model)
    {group : String × List String} (inGroups : group ∈ model.groups.entries) {name : String}
    (member : name ∈ group.2) : name ∈ model.kinds.map (·.name) := by
  rcases build_eq_ok_iff.1 built with ⟨-, rfl⟩
  have found := SortedMap.get?_eq_some_iff.2 inGroups
  rw [(get?_groups_eq_some_iff.1 found).1] at member
  rcases mem_membersOf.1 member with ⟨kind, inKinds, named, -⟩
  exact List.mem_map.2 ⟨kind, inKinds, named⟩

/-- A registry is built into a model with names that are identifiers. -/
theorem named (built : (registry.build config).outcome = .ok model) : model.Named where
  isIdentifier _ member := isIdentifier_of_mem_typeNames built member
  isKind _ inGroups _ member := mem_kinds_of_member built inGroups member

/-- The aliases of a kind are groups. -/
theorem mem_groups_of_alias (built : (registry.build config).outcome = .ok model) {kind : Kind}
    (inKinds : kind ∈ model.kinds) {group : String} (having : group ∈ kind.aliases) :
    group ∈ model.groups.keys := by
  rcases build_eq_ok_iff.1 built with ⟨-, rfl⟩
  rcases hasMember_resolved_iff.2 ⟨kind, inKinds, rfl, having⟩ with ⟨members, found, -⟩
  exact SortedMap.mem_keys_iff.2 ⟨members, found⟩

/-- A parameter is named after its field. -/
theorem parameter_name (built : (registry.build config).outcome = .ok model) {kind : Kind}
    (inKinds : kind ∈ model.kinds) {parameter : Parameter} (inBuilder : parameter ∈ kind.builder) :
    parameter.name = KindDefinition.parameterName config parameter.field := by
  rcases build_eq_ok_iff.1 built with ⟨-, rfl⟩
  rcases mem_kinds_resolved.1 inKinds with ⟨definition, -, equal⟩
  rw [equal] at inBuilder
  rcases List.mem_filterMap.1 inBuilder with ⟨field, -, made⟩
  rcases Option.map_eq_some_iff.1 made with ⟨spec, -, rfl⟩
  rfl

end Registry

end NodeDecl
