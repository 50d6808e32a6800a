import NodeDecl.Proofs.Artifact.Generation

/-!
# What the wrapper depends on

The wrapper is made from names alone: those of the kinds, those of the groups and the one of
the class.  A build puts the first two in increasing order, so it is enough to know which
names there are.  Nothing else of a schema or a configuration shows in the text, so two
schemas with the same names in them cannot be told apart by their wrappers.
-/

namespace NodeDecl

/-- A wrapper is made from the names of kinds and groups, each in their order, and from the
name of the class. -/
theorem Wrapper.render_eq_of_names {left right : Model} {config config' : Config}
    (kinds : left.kinds.map (·.name) = right.kinds.map (·.name))
    (groups : left.groups.keys = right.groups.keys)
    (engine : config.engineClass = config'.engineClass) :
    render left config = render right config' := by
  have types : left.typeNames = right.typeNames := by
    rw [Model.typeNames, Model.typeNames, kinds, groups]
  have builders : ∀ model : Model,
      model.kinds.map (fun kind => delegation (Text.lowerFirst kind.name)) =
        (model.kinds.map (·.name)).map fun name => delegation (Text.lowerFirst name) := by
    intro model
    rw [List.map_map]
    rfl
  rw [render, render, layout, layout, classLayout, classLayout, builders, builders, kinds, groups,
    types, engine]

namespace Registry

variable {registry left right : Registry} {config config' : Config}

/-- The names of the kinds of a model are those of the registry, in increasing order. -/
theorem names_of_build {model : Model} (built : (registry.build config).outcome = .ok model) :
    model.kinds.map (·.name) = registry.sortedNames := by
  rw [(build_eq_ok_iff.1 built).2, resolved, List.map_map]
  rfl

/-- Two generations for the same class name have the same wrapper, byte for byte, as soon as
the kinds have the same names and the groups have the same names.  Fields, builders,
validators, members of groups, overrides and all other settings play no part. -/
theorem generate_wrapper_of_names {first second : Generation}
    (made : (left.generate config).outcome = .ok first)
    (made' : (right.generate config').outcome = .ok second)
    (kinds : ∀ name, name ∈ left.kinds.keys ↔ name ∈ right.kinds.keys)
    (groups : ∀ group, group ∈ first.model.groups.keys ↔ group ∈ second.model.groups.keys)
    (engine : config.engineClass = config'.engineClass) :
    first.artifacts.wrapper = second.artifacts.wrapper := by
  obtain ⟨built, texts⟩ := generate_eq_ok_iff.1 made
  obtain ⟨built', texts'⟩ := generate_eq_ok_iff.1 made'
  have sameKinds : left.sortedNames = right.sortedNames :=
    eq_of_increasing left.sortedNames_increasing right.sortedNames_increasing fun name => by
      rw [mem_sortedNames, mem_sortedNames, kinds]
  have sameGroups : first.model.groups.keys = second.model.groups.keys :=
    eq_of_increasing first.model.groups.keys_sorted second.model.groups.keys_sorted groups
  rw [texts, texts']
  refine Wrapper.render_eq_of_names ?_ sameGroups engine
  rw [names_of_build built, names_of_build built', sameKinds]

/-- The same names in two schemas that have hardly anything else in common: even the
universal alias of each is an alias that only one kind of the other declares. -/
theorem generate_wrapper_of_two_schemas :
    let left : Registry := { kinds := { entries :=
      [("Leaf", { builder := ["value"], fields := { entries := [("value", {})] }
                  aliases := ["Tree"] }), ("Branch", {})] } }
    let right : Registry := { kinds := { entries :=
      [("Branch", { fields := { entries := [("left", { validator := some (.exactType "Leaf") })] }
                    aliases := ["Any"] }), ("Leaf", {})] } }
    let config : Config := { universalAlias := "Any" }
    let config' : Config :=
      { universalAlias := "Tree", nodeSuffix := "", reservedField := "left", keywords := []
        catalogueTrailer := ["export type Other = mixed;"] }
    ∃ first second, (left.generate config).outcome = .ok first ∧
      (right.generate config').outcome = .ok second ∧
      first.model.groups.entries = [("Any", ["Branch", "Leaf"]), ("Tree", ["Leaf"])] ∧
      second.model.groups.entries = [("Any", ["Branch"]), ("Tree", ["Branch", "Leaf"])] ∧
      first.artifacts.wrapper = second.artifacts.wrapper := by
  intro left right config config'
  have sorted : left.sorted = left.kinds.entries.reverse :=
    sorted_eq (List.reverse_perm _) (by decide +kernel)
  have sorted' : right.sorted = right.kinds.entries :=
    sorted_eq (List.Perm.refl _) (by decide +kernel)
  have made := generate_eq_ok left config (by rw [sorted]; decide +kernel)
  have made' := generate_eq_ok right config' (by rw [sorted']; decide +kernel)
  have groups : (left.resolved config).groups.entries =
      [("Any", ["Branch", "Leaf"]), ("Tree", ["Leaf"])] := by
    rw [resolved, sorted]
    decide +kernel
  have groups' : (right.resolved config').groups.entries =
      [("Any", ["Branch"]), ("Tree", ["Branch", "Leaf"])] := by
    rw [resolved, sorted']
    decide +kernel
  have same : ∀ group, group ∈ (left.resolved config).groups.keys ↔
      group ∈ (right.resolved config').groups.keys := by
    intro group
    rw [SortedMap.keys, SortedMap.keys, groups, groups']
    rfl
  refine ⟨_, _, made, made', groups, groups', ?_⟩
  refine generate_wrapper_of_names made made' ?_ same rfl
  intro name
  simp [left, right, OrderedMap.keys, or_comm]

end Registry

end NodeDecl
