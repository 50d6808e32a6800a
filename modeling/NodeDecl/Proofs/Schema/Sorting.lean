import NodeDecl.Model.FieldOrder
import NodeDecl.Proofs.Bindings

/-!
# The order of kinds and fields

Kinds are sorted by name, and the fields of a kind by the arguments of its builder
and then by name.  Both orders are strict and total on distinct names, so sorting
gives the same list wherever the same entries start.
-/

namespace NodeDecl

/-! ## Kinds -/

namespace Registry

variable {registry left right : Registry}

/-- Sorting the kinds keeps all of them. -/
theorem sorted_perm (registry : Registry) : registry.sorted.Perm registry.kinds.entries :=
  List.mergeSort_perm _ _

@[simp] theorem mem_sorted {entry : String × KindDefinition} :
    entry ∈ registry.sorted ↔ entry ∈ registry.kinds.entries :=
  registry.sorted_perm.mem_iff

/-- The names of the sorted kinds increase strictly. -/
theorem sorted_increasing (registry : Registry) :
    registry.sorted.Pairwise (fun left right => left.1 < right.1) := by
  have ascending : registry.sorted.Pairwise (fun left right => left.1 ≤ right.1) := by
    have sorted : registry.sorted.Pairwise (fun left right => decide (left.1 ≤ right.1)) := by
      apply List.pairwise_mergeSort
      · intro a b c
        simpa using String.le_trans
      · intro a b
        simpa using String.le_total a.1 b.1
    simpa using sorted
  have distinct : registry.sorted.Pairwise (fun left right => left.1 ≠ right.1) := by
    apply List.pairwise_map.1
    exact (registry.sorted_perm.map (·.1)).nodup_iff.2 registry.kinds.keys_nodup
  apply (ascending.and distinct).imp
  intro a b ⟨le, ne⟩
  apply String.not_le.1
  intro ge
  exact ne (String.le_antisymm le ge)

/-- There is one list of the kinds in increasing order of names. -/
theorem sorted_eq {entries : List (String × KindDefinition)}
    (perm : entries.Perm registry.kinds.entries)
    (increasing : entries.Pairwise (fun left right => left.1 < right.1)) :
    registry.sorted = entries := by
  apply eq_of_perm_of_asymm registry.sorted_increasing increasing
    (registry.sorted_perm.trans perm.symm)
  intro a b before
  exact String.lt_asymm before

theorem sortedNames_increasing (registry : Registry) :
    registry.sortedNames.Pairwise (· < ·) :=
  List.pairwise_map.2 registry.sorted_increasing

@[simp] theorem mem_sortedNames {name : String} :
    name ∈ registry.sortedNames ↔ name ∈ registry.kinds.keys := by
  simp [Registry.sortedNames, OrderedMap.keys]

end Registry

/-! ## Fields -/

namespace KindDefinition

variable {builder : List String} {a b c : String}

/-- No two names first stand at the same place of a builder. -/
theorem idxOf?_inj {place : Nat} (first : builder.idxOf? a = some place)
    (second : builder.idxOf? b = some place) : a = b := by
  rcases List.idxOf?_eq_some_iff.1 first with ⟨inBounds, equal, -⟩
  rcases List.idxOf?_eq_some_iff.1 second with ⟨_, equal', -⟩
  exact equal.symm.trans equal'

/-- Of two different names one is smaller. -/
theorem lt_or_gt_of_ne (differ : a ≠ b) : a < b ∨ b < a := by
  rcases String.le_total a b with le | ge
  · left
    apply String.not_le.1
    intro ge
    exact differ (String.le_antisymm le ge)
  · right
    apply String.not_le.1
    intro le
    exact differ (String.le_antisymm le ge)

/-- Of two different fields one precedes the other. -/
theorem precedes_total (differ : a ≠ b) :
    precedes builder a b = true ∨ precedes builder b a = true := by
  rw [precedes, precedes]
  cases first : builder.idxOf? a with
  | some i =>
      cases second : builder.idxOf? b with
      | some j =>
          have apart : i ≠ j := by
            intro equal
            exact differ (idxOf?_inj first (equal ▸ second))
          simpa using Nat.lt_or_gt_of_ne apart
      | none => simp
  | none =>
      cases builder.idxOf? b with
      | some j => simp
      | none => simpa using lt_or_gt_of_ne differ

/-- No two fields precede each other. -/
theorem precedes_asymm (before : precedes builder a b = true) :
    precedes builder b a = false := by
  rw [precedes] at before ⊢
  cases first : builder.idxOf? a <;> cases second : builder.idxOf? b <;>
    simp only [first, second, decide_eq_true_eq, decide_eq_false_iff_not, reduceCtorEq] at before ⊢
  · exact String.lt_asymm before
  · exact Nat.lt_asymm before

theorem precedes_trans (first : precedes builder a b = true)
    (second : precedes builder b c = true) : precedes builder a c = true := by
  rw [precedes] at first second ⊢
  cases placeA : builder.idxOf? a <;> cases placeB : builder.idxOf? b <;>
    cases placeC : builder.idxOf? c <;>
    simp only [placeA, placeB, placeC, decide_eq_true_eq, reduceCtorEq] at first second ⊢
  · exact String.lt_trans first second
  · exact Nat.lt_trans first second

/-- Not being preceded is the order with ties, which is transitive and total. -/
theorem not_precedes_trans (first : precedes builder b a = false)
    (second : precedes builder c b = false) : precedes builder c a = false := by
  by_cases same : b = a
  · exact same ▸ second
  · by_cases same' : c = b
    · exact same' ▸ first
    · have ab : precedes builder a b = true :=
        (precedes_total same).resolve_left (by simp [first])
      have bc : precedes builder b c = true :=
        (precedes_total same').resolve_left (by simp [second])
      exact precedes_asymm (precedes_trans ab bc)

variable {definition left right : KindDefinition}

/-- Ordering the fields keeps all of them. -/
theorem orderedFields_perm (definition : KindDefinition) :
    definition.orderedFields.Perm definition.fields.entries :=
  List.mergeSort_perm _ _

/-- Each of the ordered fields precedes those behind it. -/
theorem orderedFields_increasing (definition : KindDefinition) :
    definition.orderedFields.Pairwise
      (fun left right => precedes definition.builder left.1 right.1 = true) := by
  have ascending : definition.orderedFields.Pairwise
      (fun left right => !precedes definition.builder right.1 left.1) := by
    apply List.pairwise_mergeSort
    · intro a b c ab bc
      simp only [Bool.not_eq_true'] at ab bc ⊢
      exact not_precedes_trans ab bc
    · intro a b
      cases before : precedes definition.builder b.1 a.1 with
      | true => simp [precedes_asymm before]
      | false => simp
  have distinct : definition.orderedFields.Pairwise (fun left right => left.1 ≠ right.1) := by
    apply List.pairwise_map.1
    exact (definition.orderedFields_perm.map (·.1)).nodup_iff.2 definition.fields.keys_nodup
  apply (List.Pairwise.and ascending distinct).imp
  intro a b ⟨notAfter, ne⟩
  exact (precedes_total ne).resolve_right (by simpa using notAfter)

/-- There is one list of the fields in which each precedes those behind it. -/
theorem orderedFields_eq {entries : List (String × FieldSpec)}
    (perm : entries.Perm definition.fields.entries)
    (increasing : entries.Pairwise
      (fun left right => precedes definition.builder left.1 right.1 = true)) :
    definition.orderedFields = entries := by
  apply eq_of_perm_of_asymm definition.orderedFields_increasing increasing
    (definition.orderedFields_perm.trans perm.symm)
  intro a b before
  simp [precedes_asymm before]

/-- The order of the fields of a declaration does not depend on their order in the
schema. -/
theorem orderedFields_eq_of_perm (sameBuilder : left.builder = right.builder)
    (perm : left.fields.entries.Perm right.fields.entries) :
    left.orderedFields = right.orderedFields :=
  orderedFields_eq (right.orderedFields_perm.trans perm.symm)
    (sameBuilder ▸ right.orderedFields_increasing)

end KindDefinition

end NodeDecl
