import Mathlib.Data.List.Basic

/-!
# Sections

Lines are divided into sections at those that are read as heads: a section is a head with
the lines behind it, up to the next one.  Where a section is closed by a line of its own, it
is a block.  Sections and blocks that are written one behind the other are read back one by
one.
-/

namespace NodeDecl.Text

variable {α β : Type}

/-- The lines before the first head, and the sections: what each head is read as, and its
lines, the head in front. -/
def sections (head? : String → Option α) : List String → List String × List (α × List String)
  | [] => ([], [])
  | line :: rest =>
      let (before, others) := sections head? rest
      match head? line with
      | some value => ([], (value, line :: before) :: others)
      | none => (line :: before, others)

variable {head? : String → Option α}

/-- Lines without a head go in front of the lines before the first head. -/
theorem sections_append_of_none {lines : List String} (bare : ∀ line ∈ lines, head? line = none)
    (rest : List String) :
    sections head? (lines ++ rest) =
      (lines ++ (sections head? rest).1, (sections head? rest).2) := by
  induction lines with
  | nil => rfl
  | cons line others ih =>
      rw [List.forall_mem_cons] at bare
      rw [List.cons_append, sections, ih bare.2, bare.1]
      rfl

/-- Lines that make up one section. -/
def IsSection (head? : String → Option α) (value : α) (lines : List String) : Prop :=
  ∃ head body, lines = head :: body ∧ head? head = some value ∧ ∀ line ∈ body, head? line = none

theorem IsSection.sections_append {value : α} {lines rest : List String}
    (isSection : IsSection head? value lines) (headed : (sections head? rest).1 = []) :
    sections head? (lines ++ rest) = ([], (value, lines) :: (sections head? rest).2) := by
  rcases isSection with ⟨head, body, rfl, read, bare⟩
  rw [List.cons_append, sections, sections_append_of_none bare, read, headed, List.append_nil]

/-- Sections one behind the other are read back, with those that follow. -/
theorem sections_flatMap_append {values : List β} {value : β → α} {lines : β → List String}
    (each : ∀ x ∈ values, IsSection head? (value x) (lines x)) {rest : List String}
    (headed : (sections head? rest).1 = []) :
    sections head? (values.flatMap lines ++ rest) =
      ([], values.map (fun x => (value x, lines x)) ++ (sections head? rest).2) := by
  induction values with
  | nil => exact Prod.ext headed rfl
  | cons x others ih =>
      rw [List.forall_mem_cons] at each
      have tail := ih each.2
      rw [List.flatMap_cons, List.append_assoc, each.1.sections_append (by rw [tail]), tail]
      rfl

/-! ## Blocks -/

/-- What each head is read as, with the lines behind it up to the first closing one. -/
def blocks (head? : String → Option α) (closing : String) :
    List String → List (α × List String)
  | [] => []
  | line :: rest =>
      match head? line with
      | some value => (value, rest.takeWhile (· ≠ closing)) :: blocks head? closing rest
      | none => blocks head? closing rest

variable {closing : String}

/-- Lines without a head are in front of all blocks. -/
theorem blocks_append_of_none {lines : List String} (bare : ∀ line ∈ lines, head? line = none)
    (rest : List String) : blocks head? closing (lines ++ rest) = blocks head? closing rest := by
  induction lines with
  | nil => rfl
  | cons line others ih =>
      rw [List.forall_mem_cons] at bare
      rw [List.cons_append, blocks, bare.1]
      exact ih bare.2

/-- A block is read up to the line that closes it. -/
theorem blocks_cons {opening : String} {value : α} {body : List String}
    (opens : head? opening = some value) (inside : ∀ line ∈ body, line ≠ closing)
    (bare : ∀ line ∈ body, head? line = none) (closes : head? closing = none)
    (rest : List String) :
    blocks head? closing (opening :: (body ++ closing :: rest)) =
      (value, body) :: blocks head? closing rest := by
  have lines : (body ++ closing :: rest).takeWhile (· ≠ closing) = body := by
    rw [List.takeWhile_append_of_pos (by simpa using inside),
      List.takeWhile_cons_of_neg (by simp), List.append_nil]
  have after : blocks head? closing (closing :: rest) = blocks head? closing rest := by
    rw [blocks, closes]
  rw [blocks, opens, lines, blocks_append_of_none bare, after]

/-- Blocks one behind the other are read back, with those that follow. -/
theorem blocks_flatMap_append {values : List β} {lines : β → List String}
    {block : β → α × List String}
    (each : ∀ x ∈ values, ∀ rest, blocks head? closing (lines x ++ rest) =
      block x :: blocks head? closing rest) (rest : List String) :
    blocks head? closing (values.flatMap lines ++ rest) =
      values.map block ++ blocks head? closing rest := by
  induction values with
  | nil => rfl
  | cons x others ih =>
      rw [List.forall_mem_cons] at each
      rw [List.flatMap_cons, List.append_assoc, each.1, ih each.2]
      rfl

end NodeDecl.Text
