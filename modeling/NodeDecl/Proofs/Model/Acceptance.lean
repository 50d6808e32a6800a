import NodeDecl.Proofs.Model.Identifier
import NodeDecl.Proofs.Model.Verdict
import NodeDecl.Proofs.Schema.Sorting

/-!
# Which registries have a model

The rules that a registry must keep are stated here without regard to the order in
which a build makes its checks, and so is the fault that a build reports.  A build
accepts exactly the registries that keep the rules, and otherwise it blames the
least kind that breaks one.
-/

namespace NodeDecl

/-! ## One kind -/

namespace KindDefinition

variable {definition : KindDefinition} {config : Config} {name : String}

/-- A kind that keeps all rules. -/
structure Sound (definition : KindDefinition) (config : Config) (name : String) : Prop where
  named : name.toList ∈ identifiers
  complete : ∀ field ∈ definition.builder, field ∈ definition.fields.keys
  grouped : ∀ group ∈ definition.aliases ++ [config.universalAlias],
    group.toList ∈ identifiers

/-- The fault of a kind that is reported: its name before all else, then the first
entry of its builder without a field, then the first alias that is no identifier,
where the universal alias comes last. -/
inductive Blames (definition : KindDefinition) (config : Config) (name : String) :
    BuildError → Prop where
  | badName (bad : name.toList ∉ identifiers) :
      Blames definition config name (.invalidIdentifier name)
  | missingEntry {before after : List String} {field : String}
      (named : name.toList ∈ identifiers)
      (split : definition.builder = before ++ field :: after)
      (earlier : ∀ other ∈ before, other ∈ definition.fields.keys)
      (missing : field ∉ definition.fields.keys) :
      Blames definition config name (.missingField name field)
  | badAlias {before after : List String} {group : String}
      (named : name.toList ∈ identifiers)
      (complete : ∀ field ∈ definition.builder, field ∈ definition.fields.keys)
      (split : definition.aliases ++ [config.universalAlias] = before ++ group :: after)
      (earlier : ∀ other ∈ before, other.toList ∈ identifiers)
      (bad : group.toList ∉ identifiers) :
      Blames definition config name (.invalidIdentifier group)

/-- Leaving out repetitions does not change which name is found first. -/
theorem find?_eraseDups (names : List String) (accept : String → Bool) :
    names.eraseDups.find? accept = names.find? accept := by
  match names with
  | [] => rfl
  | name :: rest =>
      rw [List.eraseDups_cons, List.find?_cons, List.find?_cons]
      cases accepted : accept name with
      | true => rfl
      | false =>
          rw [find?_eraseDups, List.find?_filter]
          change List.find? _ rest = List.find? accept rest
          congr 1
          funext other
          by_cases same : other = name
          · simp [same, accepted]
          · simp [same]
termination_by names.length
decreasing_by
  simp only [List.length_cons]
  exact Nat.lt_succ_of_le (List.length_filter_le _ _)

/-- A search for a name that fails a check finds none if all names pass it. -/
theorem find?_not_eq_none_iff {names : List String} {holds : String → Bool} :
    names.find? (fun name => !holds name) = none ↔ ∀ name ∈ names, holds name = true := by
  simp

/-- A search for a name that fails a check finds the first of them. -/
theorem find?_not_eq_some_iff {names : List String} {holds : String → Bool} {name : String} :
    names.find? (fun name => !holds name) = some name ↔
      holds name = false ∧ ∃ before after, names = before ++ name :: after ∧
        ∀ other ∈ before, holds other = true := by
  simp [List.find?_eq_some_iff_append]

theorem earlyFault?_eq_none_iff :
    definition.earlyFault? name = none ↔
      name.toList ∈ identifiers ∧ ∀ field ∈ definition.builder, field ∈ definition.fields.keys := by
  rw [earlyFault?, ← isIdentifier_iff]
  by_cases named : isIdentifier name = true
  · rw [if_pos named, Option.map_eq_none_iff, find?_not_eq_none_iff]
    simp [named]
  · simp [named]

theorem aliasFault?_eq_none_iff :
    definition.aliasFault? config = none ↔
      ∀ group ∈ definition.aliases ++ [config.universalAlias], group.toList ∈ identifiers := by
  rw [aliasFault?, allAliases, find?_eraseDups, Option.map_eq_none_iff, find?_not_eq_none_iff]
  simp only [isIdentifier_iff]

/-- A kind has no fault exactly if it keeps all rules. -/
theorem fault?_eq_none_iff :
    definition.fault? config name = none ↔ definition.Sound config name := by
  rw [fault?, Option.or_eq_none_iff, earlyFault?_eq_none_iff, aliasFault?_eq_none_iff]
  constructor
  · intro kept
    rcases kept with ⟨⟨named, complete⟩, grouped⟩
    exact ⟨named, complete, grouped⟩
  · intro sound
    exact ⟨⟨sound.named, sound.complete⟩, sound.grouped⟩

/-- The first fault of a kind is the one that is reported. -/
theorem fault?_eq_some_iff {error : BuildError} :
    definition.fault? config name = some error ↔ definition.Blames config name error := by
  constructor
  · intro found
    rw [fault?, Option.or_eq_some_iff] at found
    rcases found with early | ⟨noEarly, late⟩
    · rw [earlyFault?] at early
      split at early
      · next named =>
        rcases Option.map_eq_some_iff.1 early with ⟨field, first, rfl⟩
        rcases find?_not_eq_some_iff.1 first with ⟨missing, before, after, split, earlier⟩
        apply Blames.missingEntry (isIdentifier_iff.1 named) split
        · intro other member
          exact OrderedMap.contains_iff.1 (earlier other member)
        · intro member
          rw [OrderedMap.contains_iff.2 member] at missing
          contradiction
      · next bad =>
        cases early
        exact .badName fun named => bad (isIdentifier_iff.2 named)
    · rcases earlyFault?_eq_none_iff.1 noEarly with ⟨named, complete⟩
      rw [aliasFault?, allAliases, find?_eraseDups] at late
      rcases Option.map_eq_some_iff.1 late with ⟨group, first, rfl⟩
      rcases find?_not_eq_some_iff.1 first with ⟨bad, before, after, split, earlier⟩
      apply Blames.badAlias named complete split
      · intro other member
        exact isIdentifier_iff.1 (earlier other member)
      · intro member
        rw [isIdentifier_iff.2 member] at bad
        contradiction
  · intro blames
    cases blames with
    | badName bad =>
        have rejected : ¬ isIdentifier name = true := fun named => bad (isIdentifier_iff.1 named)
        rw [fault?, earlyFault?, if_neg rejected]
        rfl
    | @missingEntry before after field named split earlier missing =>
        have first : definition.builder.find? (fun field => !definition.fields.contains field) =
            some field := by
          refine find?_not_eq_some_iff.2 ⟨?_, before, after, split, ?_⟩
          · rw [Bool.eq_false_iff]
            exact fun member => missing (OrderedMap.contains_iff.1 member)
          · intro other member
            exact OrderedMap.contains_iff.2 (earlier other member)
        rw [fault?, earlyFault?, if_pos (isIdentifier_iff.2 named), first]
        rfl
    | @badAlias before after group named complete split earlier bad =>
        have first : (definition.aliases ++ [config.universalAlias]).find?
            (fun group => !isIdentifier group) = some group := by
          refine find?_not_eq_some_iff.2 ⟨?_, before, after, split, ?_⟩
          · rw [Bool.eq_false_iff]
            exact fun accepted => bad (isIdentifier_iff.1 accepted)
          · intro other member
            exact isIdentifier_iff.2 (earlier other member)
        rw [fault?, earlyFault?_eq_none_iff.2 ⟨named, complete⟩, aliasFault?, allAliases,
          find?_eraseDups, first]
        rfl

end KindDefinition

/-! ## All kinds -/

namespace Registry

variable {registry : Registry} {config : Config}

/-- No fault at all means that every kind keeps all rules. -/
theorem firstFault?_eq_none_iff :
    firstFault? config registry.sorted = none ↔
      ∀ name definition, (name, definition) ∈ registry.kinds.entries →
        definition.Sound config name := by
  simp [firstFault?, List.findSome?_eq_none_iff, KindDefinition.fault?_eq_none_iff]

/-- The first fault is the one of the least kind that breaks a rule. -/
theorem firstFault?_eq_some_iff {error : BuildError} :
    firstFault? config registry.sorted = some error ↔
      ∃ name definition, (name, definition) ∈ registry.kinds.entries ∧
        definition.Blames config name error ∧
        ∀ other otherDefinition, (other, otherDefinition) ∈ registry.kinds.entries →
          ¬ otherDefinition.Sound config other → name ≤ other := by
  rw [firstFault?, List.findSome?_eq_some_iff]
  constructor
  · intro given
    rcases given with ⟨before, ⟨name, definition⟩, after, split, found, earlier⟩
    have member : (name, definition) ∈ registry.sorted := by
      rw [split]
      simp
    refine ⟨name, definition, mem_sorted.1 member, KindDefinition.fault?_eq_some_iff.1 found, ?_⟩
    intro other otherDefinition otherMember unsound
    have increasing := registry.sorted_increasing
    have otherSorted := mem_sorted.2 otherMember
    rw [split, List.pairwise_append, List.pairwise_cons] at increasing
    rw [split, List.mem_append, List.mem_cons] at otherSorted
    rcases otherSorted with inBefore | same | inAfter
    · exact absurd (KindDefinition.fault?_eq_none_iff.1 (earlier _ inBefore)) unsound
    · cases same
      exact String.le_refl _
    · exact String.not_lt.1 (String.lt_asymm (increasing.2.1.1 _ inAfter))
  · intro given
    rcases given with ⟨name, definition, member, blames, least⟩
    rcases List.append_of_mem (mem_sorted.2 member) with ⟨before, after, split⟩
    refine ⟨before, (name, definition), after, split,
      KindDefinition.fault?_eq_some_iff.2 blames, ?_⟩
    intro given inBefore
    rcases given with ⟨other, otherDefinition⟩
    apply KindDefinition.fault?_eq_none_iff.2
    by_contra unsound
    have increasing := registry.sorted_increasing
    rw [split, List.pairwise_append] at increasing
    have smaller : other < name := increasing.2.2 _ inBefore _ List.mem_cons_self
    have otherMember : (other, otherDefinition) ∈ registry.kinds.entries := by
      apply mem_sorted.1
      rw [split]
      exact List.mem_append_left _ inBefore
    exact String.not_le.2 smaller (least other otherDefinition otherMember unsound)

/-- A registry keeps all rules if its kinds keep those that concern them alone, and the
universal alias is an identifier unless there is no kind to have it. -/
theorem forall_sound_iff :
    (∀ name definition, (name, definition) ∈ registry.kinds.entries →
      definition.Sound config name) ↔
      (∀ name definition, (name, definition) ∈ registry.kinds.entries →
        name.toList ∈ identifiers ∧
        (∀ field ∈ definition.builder, field ∈ definition.fields.keys) ∧
        ∀ group ∈ definition.aliases, group.toList ∈ identifiers) ∧
      (registry.kinds.entries ≠ [] → config.universalAlias.toList ∈ identifiers) := by
  constructor
  · intro sound
    constructor
    · intro name definition member
      have kept := sound name definition member
      refine ⟨kept.named, kept.complete, ?_⟩
      intro group declared
      exact kept.grouped group (List.mem_append_left _ declared)
    · intro nonempty
      rcases List.exists_mem_of_ne_nil _ nonempty with ⟨⟨name, definition⟩, member⟩
      exact (sound name definition member).grouped _ (by simp)
  · intro ⟨rules, universal⟩ name definition member
    rcases rules name definition member with ⟨named, complete, declared⟩
    refine ⟨named, complete, ?_⟩
    intro group among
    rcases List.mem_append.1 among with inDeclared | isUniversal
    · exact declared group inDeclared
    · rw [List.mem_singleton.1 isUniversal]
      exact universal (List.ne_nil_of_mem member)

/-- A build has a model exactly if every kind has an identifier as its name, a field for
every entry of its builder and identifiers as aliases, and the universal alias is one
as well, unless there is no kind.  Otherwise it reports the fault of the least kind
that breaks a rule, whatever the order in which the kinds are defined. -/
theorem build_verdict (registry : Registry) (config : Config) :
    ((∃ model, (registry.build config).outcome = .ok model) ↔
      (∀ name definition, (name, definition) ∈ registry.kinds.entries →
        name.toList ∈ identifiers ∧
        (∀ field ∈ definition.builder, field ∈ definition.fields.keys) ∧
        ∀ group ∈ definition.aliases, group.toList ∈ identifiers) ∧
      (registry.kinds.entries ≠ [] → config.universalAlias.toList ∈ identifiers)) ∧
    ∀ error, (registry.build config).outcome = .error error ↔
      ∃ name definition, (name, definition) ∈ registry.kinds.entries ∧
        definition.Blames config name error ∧
        ∀ other otherDefinition, (other, otherDefinition) ∈ registry.kinds.entries →
          ¬ otherDefinition.Sound config other → name ≤ other := by
  rw [← forall_sound_iff, ← firstFault?_eq_none_iff, build_eq]
  constructor
  · cases firstFault? config registry.sorted with
    | none => simp
    | some error => simp
  · intro error
    rw [← firstFault?_eq_some_iff]
    cases firstFault? config registry.sorted with
    | none => simp
    | some first => simp

end Registry

end NodeDecl
