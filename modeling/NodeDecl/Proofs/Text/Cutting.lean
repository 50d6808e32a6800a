import Mathlib.Data.List.Basic

/-!
# Cutting lists

When two lists are known to be equal and each of them is put together from parts, the parts
are equal as well if something tells where one ends: the first or the last place at which a
test fails, or an element that one part has and the other lacks.  A list of such parts with
separators between them is known as a whole.
-/

namespace NodeDecl

variable {α : Type} {front front' back back' : List α} {c c' : α}

/-- A test fails at the front of a list, unless there is nothing. -/
def CutBy (p : α → Bool) (back : List α) : Prop :=
  ∀ c ∈ back.head?, p c = false

theorem cutBy_nil {p : α → Bool} : CutBy p [] := by
  simp [CutBy]

theorem cutBy_cons {p : α → Bool} (ends : p c = false) : CutBy p (c :: back) := by
  simpa [CutBy] using ends

theorem takeWhile_append_of_cutBy {p : α → Bool} (inside : ∀ x ∈ front, p x = true)
    (ends : CutBy p back) : (front ++ back).takeWhile p = front := by
  rw [List.takeWhile_append_of_pos inside]
  cases back with
  | nil => rw [List.takeWhile_nil, List.append_nil]
  | cons c rest => rw [List.takeWhile_cons_of_neg (by simp [ends c rfl]), List.append_nil]

/-- Two lists that are cut where something fails first have the same parts. -/
theorem cut_inj {p : α → Bool} (inside : ∀ x ∈ front, p x = true)
    (inside' : ∀ x ∈ front', p x = true) (ends : CutBy p back) (ends' : CutBy p back')
    (equal : front ++ back = front' ++ back') : front = front' ∧ back = back' := by
  have fronts := congrArg (List.takeWhile p) equal
  rw [takeWhile_append_of_cutBy inside ends, takeWhile_append_of_cutBy inside' ends'] at fronts
  subst fronts
  exact ⟨rfl, List.append_cancel_left equal⟩

/-- Two lists that are cut where something fails last have the same parts. -/
theorem cut_last_inj {p : α → Bool} (inside : ∀ x ∈ back, p x = true)
    (inside' : ∀ x ∈ back', p x = true) (ends : p c = false)
    (equal : front ++ c :: back = front' ++ c :: back') :
    front = front' ∧ back = back' := by
  have reversed := congrArg List.reverse equal
  simp only [List.reverse_append, List.reverse_cons, List.append_assoc, List.singleton_append]
    at reversed
  have parts := cut_inj (by simpa using inside) (by simpa using inside') (cutBy_cons ends)
    (cutBy_cons ends) reversed
  exact ⟨List.reverse_inj.1 (List.cons.inj parts.2).2, List.reverse_inj.1 parts.1⟩

/-- A list cannot end in a name, some middle and a tail and also in that middle and a back
if the name has something that the back lacks, and the back something that name and tail
lack: of the two ends, the longer one has all that the shorter one has. -/
theorem ends_apart [DecidableEq α] {name middle tail : List α} (inName : c ∈ name)
    (notInBack : c ∉ back) (inBack : c' ∈ back) (notInName : c' ∉ name) (notInTail : c' ∉ tail) :
    front ++ (name ++ middle ++ tail) ≠ front' ++ (middle ++ back) := by
  intro equal
  have first : name ++ middle ++ tail <:+ front' ++ (middle ++ back) := ⟨front, equal⟩
  have second : middle ++ back <:+ front' ++ (middle ++ back) := ⟨front', rfl⟩
  rcases List.suffix_or_suffix_of_suffix first second with shorter | shorter
  · have counted := shorter.sublist.count_le c
    have present := List.count_pos_iff.2 inName
    have absent := List.count_eq_zero.2 notInBack
    simp only [List.count_append] at counted
    omega
  · have counted := shorter.sublist.count_le c'
    have present := List.count_pos_iff.2 inBack
    have absent := List.count_eq_zero.2 notInName
    have missing := List.count_eq_zero.2 notInTail
    simp only [List.count_append] at counted
    omega

/-! ## Parts with separators between them -/

/-- Some parts, each of them behind a separator. -/
def behindSeparators (separator : List α) (parts : List (List α)) : List α :=
  parts.flatMap (separator ++ ·)

theorem intercalate_cons (separator part : List α) (parts : List (List α)) :
    separator.intercalate (part :: parts) = part ++ behindSeparators separator parts := by
  induction parts generalizing part with
  | nil => rw [List.intercalate_singleton, behindSeparators, List.flatMap_nil, List.append_nil]
  | cons next parts ih =>
      rw [List.intercalate_cons_cons, ih, behindSeparators, behindSeparators, List.flatMap_cons]
      simp only [List.append_assoc]

section

variable {β : Type} [DecidableEq α] {mark : α} {separator : List α} {holds : β → Prop}
  {write : β → List α} {left right : List β}

/-- A way of writing some elements that tells where each of them ends, as long as nothing or
a mark stands behind it. -/
def EndsBefore (mark : α) (holds : β → Prop) (write : β → List α) : Prop :=
  ∀ ⦃a b⦄, holds a → holds b → ∀ ⦃back back'⦄, CutBy (· ≠ mark) back → CutBy (· ≠ mark) back' →
    write a ++ back = write b ++ back' → a = b ∧ back = back'

theorem cutBy_behindSeparators (parts : List (List α)) :
    CutBy (· ≠ mark) (behindSeparators (mark :: separator) parts) := by
  cases parts with
  | nil => exact cutBy_nil
  | cons => exact cutBy_cons (by simp)

theorem behindSeparators_inj (ends : EndsBefore mark holds write) (leftHolds : ∀ a ∈ left, holds a)
    (rightHolds : ∀ b ∈ right, holds b)
    (equal : behindSeparators (mark :: separator) (left.map write) =
      behindSeparators (mark :: separator) (right.map write)) : left = right := by
  induction left generalizing right with
  | nil =>
      cases right with
      | nil => rfl
      | cons => contradiction
  | cons a left ih =>
      cases right with
      | nil => contradiction
      | cons b right =>
          rw [List.forall_mem_cons] at leftHolds rightHolds
          simp only [List.map_cons, behindSeparators, List.flatMap_cons, List.append_assoc]
            at equal
          have parts := ends leftHolds.1 rightHolds.1 (cutBy_behindSeparators _)
            (cutBy_behindSeparators _) (List.append_cancel_left equal)
          rw [parts.1, ih leftHolds.2 rightHolds.2 parts.2]

/-- Elements that tell where they end are known from their texts with separators between
them, if these begin with the mark. -/
theorem intercalate_inj (ends : EndsBefore mark holds write) (leftHolds : ∀ a ∈ left, holds a)
    (rightHolds : ∀ b ∈ right, holds b) (leftNonempty : left ≠ []) (rightNonempty : right ≠ [])
    (equal : (mark :: separator).intercalate (left.map write) =
      (mark :: separator).intercalate (right.map write)) : left = right := by
  obtain ⟨a, left, rfl⟩ := List.exists_cons_of_ne_nil leftNonempty
  obtain ⟨b, right, rfl⟩ := List.exists_cons_of_ne_nil rightNonempty
  rw [List.forall_mem_cons] at leftHolds rightHolds
  rw [List.map_cons, List.map_cons, intercalate_cons, intercalate_cons] at equal
  have parts := ends leftHolds.1 rightHolds.1 (cutBy_behindSeparators _)
    (cutBy_behindSeparators _) equal
  rw [parts.1, behindSeparators_inj ends leftHolds.2 rightHolds.2 parts.2]

end

end NodeDecl
