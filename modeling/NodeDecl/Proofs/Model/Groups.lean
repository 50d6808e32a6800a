import Mathlib.Data.List.Induction
import NodeDecl.Proofs.Model.Verdict
import NodeDecl.Proofs.Schema.Sorting

/-!
# Alias groups

A model says twice which kind has which alias: each kind lists its aliases, and each
group lists its members.  Both lists come from the aliases that the schema declares
and from the universal alias, and this module shows that they say the same, that
nothing is listed twice, and in which order everything stands.
-/

namespace NodeDecl

/-! ## First occurrences -/

/-- What is left of some names when each stands only where it stands first. -/
structure FirstOccurrences (names kept : List String) : Prop where
  nodup : kept.Nodup
  mem_iff : ∀ name, name ∈ kept ↔ name ∈ names
  ordered : kept.Pairwise fun a b => names.idxOf a < names.idxOf b

theorem eraseDups_append_singleton (names : List String) (name : String) :
    (names ++ [name]).eraseDups =
      if name ∈ names then names.eraseDups else names.eraseDups ++ [name] := by
  rw [List.eraseDups_append, List.removeAll]
  by_cases member : name ∈ names
  · simp [member]
  · simp [member, List.eraseDups_cons]

/-- Leaving out repetitions keeps the first occurrences. -/
theorem firstOccurrences_eraseDups (names : List String) :
    FirstOccurrences names names.eraseDups := by
  induction names using List.reverseRecOn with
  | nil => exact ⟨List.nodup_nil, fun _ => Iff.rfl, .nil⟩
  | append_singleton names name ih =>
      have earlier : ∀ other ∈ names.eraseDups, (names ++ [name]).idxOf other = names.idxOf other :=
        fun other member => List.idxOf_append_of_mem ((ih.mem_iff other).1 member)
      have ordered : names.eraseDups.Pairwise
          fun a b => (names ++ [name]).idxOf a < (names ++ [name]).idxOf b := by
        apply ih.ordered.imp_of_mem
        intro a b inKept inKept' before
        rwa [earlier a inKept, earlier b inKept']
      rw [eraseDups_append_singleton]
      by_cases member : name ∈ names
      · rw [if_pos member]
        refine ⟨ih.nodup, ?_, ordered⟩
        intro other
        rw [ih.mem_iff, List.mem_append, List.mem_singleton]
        constructor
        · exact .inl
        · intro given
          rcases given with inNames | rfl
          · exact inNames
          · exact member
      · rw [if_neg member]
        have fresh : name ∉ names.eraseDups := fun kept => member ((ih.mem_iff name).1 kept)
        refine ⟨?_, ?_, ?_⟩
        · exact List.nodup_append.2 ⟨ih.nodup, List.nodup_singleton name,
            fun other kept last single equal =>
              fresh (by rwa [← List.mem_singleton.1 single, ← equal])⟩
        · intro other
          rw [List.mem_append, ih.mem_iff, List.mem_append]
        · refine List.pairwise_append.2 ⟨ordered, List.pairwise_singleton _ _, ?_⟩
          intro other kept last single
          rw [List.mem_singleton.1 single, earlier other kept, List.idxOf_append_of_notMem member]
          have inBounds := List.idxOf_lt_length_of_mem ((ih.mem_iff other).1 kept)
          omega

/-! ## Groups of some kinds -/

/-- The names of the kinds that have an alias, in the order of the kinds. -/
def membersOf (kinds : List Kind) (group : String) : List String :=
  (kinds.filter fun kind => group ∈ kind.aliases).map (·.name)

theorem mem_membersOf {kinds : List Kind} {group name : String} :
    name ∈ membersOf kinds group ↔ ∃ kind ∈ kinds, kind.name = name ∧ group ∈ kind.aliases := by
  simp only [membersOf, List.mem_map, List.mem_filter, decide_eq_true_eq, and_assoc, and_comm]

/-- No kind has a group that is not there. -/
theorem membersOf_eq_nil {kinds : List Kind} {group : String}
    (absent : group ∉ kinds.flatMap (·.aliases)) : membersOf kinds group = [] := by
  rw [membersOf, List.map_eq_nil_iff, List.filter_eq_nil_iff]
  intro kind member
  simp only [decide_eq_true_eq]
  intro having
  exact absent (List.mem_flatMap.2 ⟨kind, member, having⟩)

theorem membersOf_increasing {kinds : List Kind} (group : String)
    (increasing : kinds.Pairwise (fun a b => a.name < b.name)) :
    (membersOf kinds group).Pairwise (· < ·) :=
  List.pairwise_map.2 (increasing.filter _)

/-- The groups that some kinds list, each with the name of the kind that lists it. -/
def memberships (kinds : List Kind) : List (String × String) :=
  kinds.flatMap fun kind => kind.aliases.map fun group => (group, kind.name)

theorem mem_memberships {kinds : List Kind} {group name : String} :
    (group, name) ∈ memberships kinds ↔ name ∈ membersOf kinds group := by
  simp only [memberships, List.mem_flatMap, List.mem_map, mem_membersOf, Prod.mk.injEq]
  grind

theorem aliasGroups_eq_foldl (kinds : List Kind) :
    aliasGroups kinds =
      (memberships kinds).foldl (fun groups pair => enlist pair.2 groups pair.1) ∅ := by
  rw [memberships, List.foldl_flatMap]
  simp only [List.foldl_map]
  rfl

/-- A group that is filled name by name is there if a name has been put into it, and holds
the names that have, in increasing order and each of them once. -/
theorem get?_foldl_enlist (pairs : List (String × String)) (group : String) :
    match (pairs.foldl (fun groups pair => enlist pair.2 groups pair.1) ∅).get? group with
    | some members => members.Pairwise (· < ·) ∧ members ≠ [] ∧
        ∀ name, name ∈ members ↔ (group, name) ∈ pairs
    | none => ∀ name, (group, name) ∉ pairs := by
  induction pairs using List.reverseRecOn with
  | nil => exact fun _ => List.not_mem_nil
  | append_singleton pairs pair ih =>
      rcases pair with ⟨taken, added⟩
      rw [List.foldl_append, List.foldl_cons, List.foldl_nil, enlist, SortedMap.get?_insert]
      split_ifs with same
      · subst same
        have before : ∀ members, members.Pairwise (· < ·) →
            (∀ name, name ∈ members ↔ (group, name) ∈ pairs) →
            (insertName members added).Pairwise (· < ·) ∧ insertName members added ≠ [] ∧
              ∀ name, name ∈ insertName members added ↔
                (group, name) ∈ pairs ++ [(group, added)] := by
          intro members increasing listed
          refine ⟨insertName_increasing added increasing,
            List.ne_nil_of_mem (mem_insertName.2 (.inl rfl)), ?_⟩
          intro name
          rw [mem_insertName, listed, List.mem_append, List.mem_singleton, Prod.mk.injEq,
            eq_self, true_and, or_comm]
        split at ih
        · next members found =>
          rw [found]
          exact before members ih.1 ih.2.2
        · next absent =>
          rw [absent]
          apply before [] List.Pairwise.nil
          intro name
          simp [ih]
      · have other : ∀ name, (group, name) ∈ pairs ++ [(taken, added)] ↔ (group, name) ∈ pairs := by
          simp [same]
        simpa only [other] using ih

/-- Putting kinds that come in increasing order of names into their groups, one after the
other, gives each group that a kind lists, with all kinds that list it. -/
theorem get?_aliasGroups {kinds : List Kind}
    (increasing : kinds.Pairwise (fun a b => a.name < b.name)) (group : String) :
    (aliasGroups kinds).get? group =
      if group ∈ kinds.flatMap (·.aliases) then some (membersOf kinds group) else none := by
  have filled := get?_foldl_enlist (memberships kinds) group
  rw [← aliasGroups_eq_foldl] at filled
  simp only [mem_memberships] at filled
  split at filled
  · next members found =>
    rcases filled with ⟨membersIncreasing, nonempty, listed⟩
    have equal : members = membersOf kinds group :=
      eq_of_increasing membersIncreasing (membersOf_increasing group increasing) listed
    subst equal
    rw [found, if_pos]
    by_contra absent
    exact nonempty (membersOf_eq_nil absent)
  · next absent =>
    rw [absent, if_neg]
    intro present
    rcases List.mem_flatMap.1 present with ⟨kind, member, having⟩
    exact filled kind.name (mem_membersOf.2 ⟨kind, member, rfl, having⟩)

/-! ## Groups of a model -/

namespace Model

/-- A group of a model lists a kind as its member. -/
def HasMember (model : Model) (group name : String) : Prop :=
  ∃ members, model.groups.get? group = some members ∧ name ∈ members

/-- A kind of a model lists a group among its aliases. -/
def HasAlias (model : Model) (name group : String) : Prop :=
  ∃ kind ∈ model.kinds, kind.name = name ∧ group ∈ kind.aliases

/-- The kinds and groups of a model are those that a registry and a configuration call
for: which kinds there are, which aliases each of them has, and which members each
group has, all of it in order and without repetition. -/
structure Indexes (model : Model) (registry : Registry) (config : Config) : Prop where
  kinds_increasing : (model.kinds.map (·.name)).Pairwise (· < ·)
  mem_kinds_iff : ∀ name, name ∈ model.kinds.map (·.name) ↔ name ∈ registry.kinds.keys
  /-- A kind lists the aliases that it declares and then the universal one. -/
  aliases_first : ∀ kind ∈ model.kinds, ∀ definition,
    registry.kinds.get? kind.name = some definition →
    FirstOccurrences (definition.aliases ++ [config.universalAlias]) kind.aliases
  groups_increasing : model.groups.keys.Pairwise (· < ·)
  members_increasing : ∀ group members, model.groups.get? group = some members →
    members.Pairwise (· < ·)
  members_ne_nil : ∀ group members, model.groups.get? group = some members → members ≠ []
  /-- A kind is a member of the groups that it declares and of the universal one. -/
  hasMember_iff : ∀ name definition, registry.kinds.get? name = some definition →
    ∀ group, model.HasMember group name ↔
      group ∈ definition.aliases ∨ group = config.universalAlias
  hasMember_iff_hasAlias : ∀ group name, model.HasMember group name ↔ model.HasAlias name group
  /-- There is a universal group as soon as there is a kind. -/
  universal_mem_iff : config.universalAlias ∈ model.groups.keys ↔ registry.kinds.keys ≠ []
  universal_complete : ∀ name ∈ registry.kinds.keys, model.HasMember config.universalAlias name
  /-- A kind that declares no alias is in one group only. -/
  undeclared : ∀ name definition, registry.kinds.get? name = some definition →
    definition.aliases = [] → ∃! group, model.HasMember group name

end Model

namespace Registry

variable {registry : Registry} {config : Config}

/-- The kinds of a model come in strictly increasing order of names. -/
theorem resolved_increasing (registry : Registry) (config : Config) :
    (registry.resolved config).kinds.Pairwise (fun a b => a.name < b.name) :=
  List.pairwise_map.2 registry.sorted_increasing

theorem build_increasing {model : Model} (built : (registry.build config).outcome = .ok model) :
    model.kinds.Pairwise (fun a b => a.name < b.name) :=
  (build_eq_ok_iff.1 built).2 ▸ registry.resolved_increasing config

/-- The kinds of a model are those of the registry. -/
theorem mem_kinds_resolved {kind : Kind} :
    kind ∈ (registry.resolved config).kinds ↔
      ∃ definition, registry.kinds.get? kind.name = some definition ∧
        kind = definition.resolved config kind.name := by
  simp only [resolved, List.mem_map, mem_sorted, Prod.exists, ← OrderedMap.get?_eq_some_iff]
  constructor
  · intro given
    rcases given with ⟨name, definition, found, rfl⟩
    exact ⟨definition, found, rfl⟩
  · intro given
    rcases given with ⟨definition, found, equal⟩
    exact ⟨kind.name, definition, found, equal.symm⟩

/-- The groups of a model have as members exactly the kinds that list them. -/
theorem get?_groups_eq_some_iff {group : String} {members : List String} :
    (registry.resolved config).groups.get? group = some members ↔
      members = membersOf (registry.resolved config).kinds group ∧ members ≠ [] := by
  rw [show (registry.resolved config).groups.get? group = _ from
    get?_aliasGroups (registry.resolved_increasing config) group]
  constructor
  · intro found
    split at found
    · next present =>
      cases found
      refine ⟨rfl, ?_⟩
      rcases List.mem_flatMap.1 present with ⟨kind, member, having⟩
      exact List.ne_nil_of_mem (mem_membersOf.2 ⟨kind, member, rfl, having⟩)
    · contradiction
  · intro ⟨equal, nonempty⟩
    subst equal
    rw [if_pos]
    by_contra absent
    exact nonempty (membersOf_eq_nil absent)

theorem hasMember_resolved_iff {group name : String} :
    (registry.resolved config).HasMember group name ↔
      (registry.resolved config).HasAlias name group := by
  rw [Model.HasAlias, ← mem_membersOf]
  constructor
  · intro given
    rcases given with ⟨members, found, member⟩
    exact (get?_groups_eq_some_iff.1 found).1 ▸ member
  · intro member
    exact ⟨_, get?_groups_eq_some_iff.2 ⟨rfl, List.ne_nil_of_mem member⟩, member⟩

/-- A kind lists the aliases that it declares and the universal one. -/
theorem hasAlias_resolved_iff {group name : String} :
    (registry.resolved config).HasAlias name group ↔
      ∃ definition, registry.kinds.get? name = some definition ∧
        (group ∈ definition.aliases ∨ group = config.universalAlias) := by
  have listed : ∀ definition : KindDefinition,
      group ∈ (definition.resolved config name).aliases ↔
        group ∈ definition.aliases ∨ group = config.universalAlias := by
    intro definition
    rw [KindDefinition.resolved, KindDefinition.allAliases,
      (firstOccurrences_eraseDups _).mem_iff, List.mem_append, List.mem_singleton]
  constructor
  · intro given
    rcases given with ⟨kind, member, rfl, having⟩
    rcases mem_kinds_resolved.1 member with ⟨definition, found, equal⟩
    rw [equal] at having
    exact ⟨definition, found, (listed definition).1 having⟩
  · intro given
    rcases given with ⟨definition, found, having⟩
    exact ⟨definition.resolved config name, mem_kinds_resolved.2 ⟨definition, found, rfl⟩, rfl,
      (listed definition).2 having⟩

/-- The alias groups of a model are exact.  A kind is a member of a group if it declares
the alias or the alias is the universal one, and exactly then it lists the alias, in
the place where it is first declared; nothing is listed twice or out of order. -/
theorem build_indexes {model : Model} (built : (registry.build config).outcome = .ok model) :
    model.Indexes registry config := by
  rcases build_eq_ok_iff.1 built with ⟨-, rfl⟩
  have hasMember_iff : ∀ name definition, registry.kinds.get? name = some definition →
      ∀ group, (registry.resolved config).HasMember group name ↔
        group ∈ definition.aliases ∨ group = config.universalAlias := by
    intro name definition found group
    rw [hasMember_resolved_iff, hasAlias_resolved_iff, found]
    simp
  have universal_complete : ∀ name ∈ registry.kinds.keys,
      (registry.resolved config).HasMember config.universalAlias name := by
    intro name member
    rcases OrderedMap.mem_keys_iff.1 member with ⟨definition, entry⟩
    exact (hasMember_iff name definition (OrderedMap.get?_eq_some_iff.2 entry) _).2 (.inr rfl)
  constructor
  case kinds_increasing =>
    exact List.pairwise_map.2 (registry.resolved_increasing config)
  case mem_kinds_iff =>
    intro name
    rw [← mem_sortedNames, resolved, sortedNames, List.map_map]
    rfl
  case aliases_first =>
    intro kind member definition found
    rcases mem_kinds_resolved.1 member with ⟨other, found', equal⟩
    cases found.symm.trans found'
    rw [equal]
    exact firstOccurrences_eraseDups _
  case groups_increasing =>
    exact (registry.resolved config).groups.keys_sorted
  case members_increasing =>
    intro group members found
    rw [(get?_groups_eq_some_iff.1 found).1]
    exact membersOf_increasing group (registry.resolved_increasing config)
  case members_ne_nil =>
    intro group members found
    exact (get?_groups_eq_some_iff.1 found).2
  case hasMember_iff => exact hasMember_iff
  case hasMember_iff_hasAlias =>
    intro group name
    exact hasMember_resolved_iff
  case universal_mem_iff =>
    rw [SortedMap.mem_keys_iff]
    constructor
    · intro given
      rcases given with ⟨members, found⟩
      rcases List.exists_mem_of_ne_nil _ (get?_groups_eq_some_iff.1 found).2 with
        ⟨name, member⟩
      rcases hasAlias_resolved_iff.1 (hasMember_resolved_iff.1 ⟨members, found, member⟩) with
        ⟨definition, bound, -⟩
      exact List.ne_nil_of_mem
        (OrderedMap.mem_keys_of_mem (OrderedMap.get?_eq_some_iff.1 bound))
    · intro nonempty
      rcases List.exists_mem_of_ne_nil _ nonempty with ⟨name, member⟩
      rcases universal_complete name member with ⟨members, found, -⟩
      exact ⟨members, found⟩
  case universal_complete => exact universal_complete
  case undeclared =>
    intro name definition found none
    refine ⟨config.universalAlias, (hasMember_iff name definition found _).2 (.inr rfl), ?_⟩
    intro group member
    simpa [none] using (hasMember_iff name definition found group).1 member

/-- A kind that declares the universal alias among repeated ones, a kind with a single
alias and a kind without any. -/
theorem build_indexes_of_three :
    let registry : Registry :=
      { kinds := { entries :=
        [("StringLiteral", { aliases := ["Literal", "Babel", "Literal", "Expression"] }),
          ("Noop", {}), ("Identifier", { aliases := ["Expression"] })] } }
    ∃ model, (registry.build {}).outcome = .ok model ∧
      model.kinds.map (·.aliases) =
        [["Expression", "Babel"], ["Babel"], ["Literal", "Babel", "Expression"]] ∧
      model.groups.entries =
        [("Babel", ["Identifier", "Noop", "StringLiteral"]),
          ("Expression", ["Identifier", "StringLiteral"]), ("Literal", ["StringLiteral"])] ∧
      model.Indexes registry {} := by
  intro registry
  have sorted : registry.sorted =
      [("Identifier", { aliases := ["Expression"] }), ("Noop", {}),
        ("StringLiteral", { aliases := ["Literal", "Babel", "Literal", "Expression"] })] :=
    sorted_eq (List.reverse_perm registry.kinds.entries) (by decide +kernel)
  have built : (registry.build {}).outcome = .ok (registry.resolved {}) :=
    build_eq_ok_iff.2 ⟨by rw [sorted]; decide +kernel, rfl⟩
  have aliases : (registry.resolved {}).kinds.map (·.aliases) =
      [["Expression", "Babel"], ["Babel"], ["Literal", "Babel", "Expression"]] := by
    rw [resolved, sorted]
    decide +kernel
  have groups : (registry.resolved {}).groups.entries =
      [("Babel", ["Identifier", "Noop", "StringLiteral"]),
        ("Expression", ["Identifier", "StringLiteral"]), ("Literal", ["StringLiteral"])] := by
    rw [resolved, sorted]
    decide +kernel
  exact ⟨registry.resolved {}, built, aliases, groups, build_indexes built⟩

end Registry

end NodeDecl
