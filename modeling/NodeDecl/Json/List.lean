import NodeDecl.Json.Nested
import NodeDecl.Json.Scalar

/-!
# Reading lists

A list is read item by item, and a failure inside an item is reported with the
position of the item.
-/

namespace NodeDecl.Json

variable {α : Type}

/-- The text up to the next item of a list: whether there is one, and the text
from it on, or else the text behind the closing bracket. -/
def itemStart (isFirst : Bool) (text : List Char) : Outcome Bool :=
  match dropBlank text with
  | [] => .error (.on .endOfList [])
  | ']' :: rest => .ok (false, rest)
  | c :: rest =>
      if isFirst then .ok (true, c :: rest)
      else if c = ',' then
        match dropBlank rest with
        | [] => .error (.on .endOfValue [])
        | ']' :: behind => .error (.on .trailingComma (']' :: behind))
        | next => .ok (true, next)
      else .error (.on .expectedListCommaOrEnd (c :: rest))

theorem itemStart_length_le {isFirst more : Bool} {text rest : List Char}
    (accepted : itemStart isFirst text = .ok (more, rest)) : rest.length ≤ text.length := by
  have blank := dropBlank_length_le text
  unfold itemStart at accepted
  split at accepted
  · simp at accepted
  · next front =>
    rw [front] at blank
    simp only [Except.ok.injEq, Prod.mk.injEq] at accepted
    exact accepted.2 ▸ Nat.le_of_succ_le blank
  · next c behind _ front =>
    rw [front] at blank
    split at accepted
    · simp only [Except.ok.injEq, Prod.mk.injEq] at accepted
      exact accepted.2 ▸ blank
    · split at accepted
      · split at accepted
        · simp at accepted
        · simp at accepted
        · simp only [Except.ok.injEq, Prod.mk.injEq] at accepted
          exact accepted.2 ▸ Nat.le_trans (dropBlank_length_le behind) (Nat.le_of_succ_le blank)
      · simp at accepted

theorem itemStart_end_length_lt {isFirst : Bool} {text rest : List Char}
    (accepted : itemStart isFirst text = .ok (false, rest)) : rest.length < text.length := by
  have blank := dropBlank_length_le text
  unfold itemStart at accepted
  split at accepted
  · simp at accepted
  · next front =>
    rw [front] at blank
    simp only [Except.ok.injEq, Prod.mk.injEq] at accepted
    exact accepted.2 ▸ blank
  · split at accepted
    · simp at accepted
    · split at accepted
      · split at accepted <;> simp at accepted
      · simp at accepted

/-- One turn of reading a list, with the items so far in reverse. -/
def itemStep (item : Reader α) (items : List α) : Reader (List α ⊕ List α) where
  run text :=
    match itemStart items.isEmpty text with
    | .error failure => .error failure
    | .ok (false, rest) => .ok (.inr items.reverse, rest)
    | .ok (true, front) =>
        Outcome.map (fun value => .inl (value :: items))
          ((item.within (.index items.length)).run front)
  consumes {text _ _} accepted := by
    split at accepted
    · simp at accepted
    · next start =>
      simp only [Except.ok.injEq, Prod.mk.injEq] at accepted
      exact accepted.2 ▸ itemStart_end_length_lt start
    · next start =>
      obtain ⟨_, inner, _⟩ := Outcome.map_eq_ok accepted
      exact Nat.lt_of_lt_of_le (Reader.consumes _ inner) (itemStart_length_le start)

/-- The part of a list behind its opening bracket. -/
def listBody (item : Reader α) : Reader (List α) :=
  .loop (itemStep item) []

/-- A list and nothing else. -/
def readList (item : Nat → Reader α) : Nat → Reader (List α) :=
  .nested (· = '[') (fun levels _ => listBody (item levels)) (.refuse (mismatch "a sequence"))

/-- A list of strings. -/
def readStrings : Nat → Reader (List String) :=
  readList fun _ => readString

end NodeDecl.Json
