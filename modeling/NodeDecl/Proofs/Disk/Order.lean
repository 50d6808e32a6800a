import Mathlib.Data.List.Basic
import NodeDecl.Disk.Path

/-!
# The order of paths

Paths are compared component by component.  The order is total and transitive, but it does
not tell paths apart that are spelled differently and have the same components.  So a list
of paths in this order is known only together with the order in which such paths stand.
-/

namespace NodeDecl

namespace Component

variable {a b c : Component}

/-- A component precedes another one by its kind, or by its name among names. -/
theorem precedes_iff :
    a.precedes b = true ↔
      a.rank < b.rank ∨ ∃ left right, a = .name left ∧ b = .name right ∧ left < right := by
  cases a <;> cases b <;> simp [precedes, rank]

theorem precedes_irrefl (component : Component) : component.precedes component = false := by
  rw [← Bool.not_eq_true, precedes_iff]
  rintro (lower | ⟨left, right, rfl, same, smaller⟩)
  · exact Nat.lt_irrefl _ lower
  · cases same
    exact String.lt_irrefl _ smaller

theorem precedes_trans (first : a.precedes b = true) (second : b.precedes c = true) :
    a.precedes c = true := by
  rw [precedes_iff] at first second ⊢
  rcases first with lower | ⟨left, middle, rfl, rfl, smaller⟩
  · rcases second with lower' | ⟨_, right, rfl, rfl, -⟩
    · exact .inl (Nat.lt_trans lower lower')
    · exact .inl lower
  · rcases second with lower | ⟨_, right, same, rfl, smaller'⟩
    · exact .inl lower
    · cases same
      exact .inr ⟨left, right, rfl, rfl, String.lt_trans smaller smaller'⟩

/-- Two components of which none precedes the other are the same. -/
theorem eq_of_not_precedes (first : a.precedes b = false) (second : b.precedes a = false) :
    a = b := by
  rw [← Bool.not_eq_true, precedes_iff, not_or] at first second
  have same : a.rank = b.rank := Nat.le_antisymm (Nat.not_lt.1 second.1) (Nat.not_lt.1 first.1)
  cases a with
  | name left =>
      cases b with
      | name right =>
          congr 1
          apply String.le_antisymm
          · exact String.not_lt.1 fun smaller => second.2 ⟨_, _, rfl, rfl, smaller⟩
          · exact String.not_lt.1 fun smaller => first.2 ⟨_, _, rfl, rfl, smaller⟩
      | root | current | parent => cases same
  | root | current | parent =>
      cases b with
      | name right => cases same
      | root | current | parent => first | rfl | cases same

end Component

/-- The first components that differ decide. -/
theorem componentsLE_cons_iff {left right : Component} {lefts rights : List Component} :
    componentsLE (left :: lefts) (right :: rights) = true ↔
      left.precedes right = true ∨ left = right ∧ componentsLE lefts rights = true := by
  rw [componentsLE, Bool.or_eq_true, Bool.and_eq_true, Bool.not_eq_true']
  constructor
  · rintro (before | ⟨notBehind, rest⟩)
    · exact .inl before
    · cases before : left.precedes right with
      | true => exact .inl rfl
      | false => exact .inr ⟨Component.eq_of_not_precedes before notBehind, rest⟩
  · rintro (before | ⟨rfl, rest⟩)
    · exact .inl before
    · exact .inr ⟨Component.precedes_irrefl _, rest⟩

theorem componentsLE_total (left right : List Component) :
    componentsLE left right = true ∨ componentsLE right left = true := by
  induction left generalizing right with
  | nil => exact .inl rfl
  | cons left lefts ih =>
      cases right with
      | nil => exact .inr rfl
      | cons right rights =>
          rw [componentsLE_cons_iff, componentsLE_cons_iff]
          cases before : left.precedes right with
          | true => exact .inl (.inl rfl)
          | false =>
              cases behind : right.precedes left with
              | true => exact .inr (.inl rfl)
              | false =>
                  have same := Component.eq_of_not_precedes before behind
                  rcases ih rights with le | le
                  · exact .inl (.inr ⟨same, le⟩)
                  · exact .inr (.inr ⟨same.symm, le⟩)

theorem componentsLE_trans {a b c : List Component} (first : componentsLE a b = true)
    (second : componentsLE b c = true) : componentsLE a c = true := by
  induction a generalizing b c with
  | nil => rfl
  | cons x xs ih =>
      cases b with
      | nil => cases first
      | cons y ys =>
          cases c with
          | nil => cases second
          | cons z zs =>
              rw [componentsLE_cons_iff] at first second ⊢
              rcases first with before | ⟨rfl, rest⟩
              · rcases second with before' | ⟨rfl, -⟩
                · exact .inl (Component.precedes_trans before before')
                · exact .inl before
              · rcases second with before' | ⟨rfl, rest'⟩
                · exact .inl before'
                · exact .inr ⟨rfl, ih rest rest'⟩

theorem componentsLE_antisymm {left right : List Component}
    (first : componentsLE left right = true) (second : componentsLE right left = true) :
    left = right := by
  induction left generalizing right with
  | nil =>
      cases right with
      | nil => rfl
      | cons right rights => cases second
  | cons left lefts ih =>
      cases right with
      | nil => cases first
      | cons right rights =>
          rw [componentsLE_cons_iff] at first second
          rcases first with before | ⟨rfl, rest⟩
          · rcases second with behind | ⟨rfl, -⟩
            · have twice := Component.precedes_trans before behind
              rw [Component.precedes_irrefl] at twice
              cases twice
            · rw [Component.precedes_irrefl] at before
              cases before
          · rcases second with behind | ⟨-, rest'⟩
            · rw [Component.precedes_irrefl] at behind
              cases behind
            · rw [ih rest rest']

namespace Path

theorem le_total (left right : Path) : (left.le right || right.le left) = true := by
  rw [Bool.or_eq_true]
  exact componentsLE_total _ _

theorem le_trans (a b c : Path) : a.le b = true → b.le c = true → a.le c = true :=
  componentsLE_trans

/-- Paths that the order does not tell apart have the same components. -/
theorem components_eq_of_le {left right : Path} (first : left.le right = true)
    (second : right.le left = true) : left.components = right.components :=
  componentsLE_antisymm first second

/-! ## Paths in order -/

/-- The paths `found`, in the order of paths.  Those that the order does not tell apart
stay in the order in which they were found. -/
structure Arranged (found paths : List Path) : Prop where
  perm : paths.Perm found
  ascending : paths.Pairwise (fun left right => left.le right = true)
  stable : ∀ path : Path,
    paths.filter (fun other => other.components = path.components) =
      found.filter (fun other => other.components = path.components)

variable {found left right : List Path}

/-- Sorting arranges paths. -/
theorem arranged_mergeSort (found : List Path) : Arranged found (found.mergeSort le) where
  perm := List.mergeSort_perm _ _
  ascending := List.pairwise_mergeSort le_trans le_total _
  stable path := by
    have tied : (found.filter fun other => other.components = path.components).Pairwise
        (fun left right => left.le right = true) := by
      apply List.pairwise_of_forall_mem_list
      intro left first right second
      have same : left.components = right.components :=
        (of_decide_eq_true (List.mem_filter.1 first).2).trans
          (of_decide_eq_true (List.mem_filter.1 second).2).symm
      rw [le, same]
      exact (componentsLE_total _ _).elim id id
    have kept := (List.sublist_mergeSort le_trans le_total tied List.filter_sublist).filter
      fun other => decide (other.components = path.components)
    rw [List.filter_filter] at kept
    simp only [Bool.and_self] at kept
    exact (kept.eq_of_length ((List.mergeSort_perm found le).filter _).length_eq.symm).symm

/-- Lists of the same paths in order are equal if they agree on the paths that the order
does not tell apart. -/
theorem eq_of_ascending (perm : left.Perm right)
    (first : left.Pairwise (fun left right => left.le right = true))
    (second : right.Pairwise (fun left right => left.le right = true))
    (stable : ∀ path : Path,
      left.filter (fun other => other.components = path.components) =
        right.filter (fun other => other.components = path.components)) :
    left = right := by
  induction left generalizing right with
  | nil => exact perm.nil_eq
  | cons a lefts ih =>
      cases right with
      | nil => exact perm.eq_nil
      | cons b rights =>
          rw [List.pairwise_cons] at first second
          have same : b.components = a.components := by
            rcases List.mem_cons.1 (perm.mem_iff.1 List.mem_cons_self) with rfl | behind
            · rfl
            rcases List.mem_cons.1 (perm.mem_iff.2 List.mem_cons_self) with rfl | behind'
            · rfl
            exact components_eq_of_le (second.1 a behind) (first.1 b behind')
          -- both are the first path with these components
          have equal : a = b := by
            have heads := stable a
            rw [List.filter_cons_of_pos (by simp), List.filter_cons_of_pos (by simpa using same)]
              at heads
            exact (List.cons.inj heads).1
          subst equal
          congr 1
          apply ih perm.cons_inv first.2 second.2
          intro path
          have rest := stable path
          rw [List.filter_cons, List.filter_cons] at rest
          split at rest
          · exact (List.cons.inj rest).2
          · exact rest

/-- There is one way to arrange paths. -/
theorem Arranged.unique (first : Arranged found left) (second : Arranged found right) :
    left = right :=
  eq_of_ascending (first.perm.trans second.perm.symm) first.ascending second.ascending
    fun path => (first.stable path).trans (second.stable path).symm

end Path

end NodeDecl
