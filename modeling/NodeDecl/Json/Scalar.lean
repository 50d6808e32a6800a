import NodeDecl.Json.Scalar.Number
import NodeDecl.Json.Scalar.Text

/-!
# Reading scalars

Words, numbers and strings are told apart by their first character. Where a
scalar of one kind is expected and another one stands, the other one is read as a
whole before it is refused, so that its own faults are reported first.
-/

namespace NodeDecl.Json

variable {α : Type}

/-- The remaining letters of a word that stands for a value. -/
def word (value : Value) : List Char → List Char → Outcome Value
  | [], rest => .ok (value, rest)
  | _ :: _, [] => .error (.before .endOfValue [])
  | letter :: letters, c :: rest =>
      if c = letter then word value letters rest
      else .error (.on .expectedIdent (c :: rest))

theorem word_length_le {value result : Value} {letters text rest : List Char}
    (accepted : word value letters text = .ok (result, rest)) : rest.length ≤ text.length := by
  fun_induction word value letters text with
  | case1 => simp_all
  | case2 => simp at accepted
  | case3 => have := ‹_ → _› accepted; simp; omega
  | case4 => simp at accepted

/-- A scalar at the front of a text, told by its first character, or `none` if no
scalar begins with that character. -/
def scalar? : List Char → Option (Outcome Value)
  | 'n' :: rest => some (word .null ['u', 'l', 'l'] rest)
  | 't' :: rest => some (word (.bool true) ['r', 'u', 'e'] rest)
  | 'f' :: rest => some (word (.bool false) ['a', 'l', 's', 'e'] rest)
  | '-' :: rest => some ((number true rest).map .number)
  | '"' :: rest => some ((stringBody.run rest).map .string)
  | c :: rest =>
      if c.isDigit then some ((number false (c :: rest)).map .number) else none
  | [] => none

theorem scalar?_length_lt {text rest : List Char} {value : Value}
    (accepted : scalar? text = some (.ok (value, rest))) : rest.length < text.length := by
  unfold scalar? at accepted
  split at accepted
  · have := word_length_le (Option.some.inj accepted)
    simp only [List.length_cons]
    omega
  · have := word_length_le (Option.some.inj accepted)
    simp only [List.length_cons]
    omega
  · have := word_length_le (Option.some.inj accepted)
    simp only [List.length_cons]
    omega
  · obtain ⟨_, inner, _⟩ := Outcome.map_eq_ok (Option.some.inj accepted)
    have := number_length_lt inner
    simp only [List.length_cons]
    omega
  · obtain ⟨_, inner, _⟩ := Outcome.map_eq_ok (Option.some.inj accepted)
    have := stringBody.consumes inner
    simp only [List.length_cons]
    omega
  · split at accepted
    · obtain ⟨_, inner, _⟩ := Outcome.map_eq_ok (Option.some.inj accepted)
      exact number_length_lt inner
    · simp at accepted
  · simp at accepted

/-- The failure where a value of another kind stands than the one that is expected.
A scalar is read first, so that its own faults come before its kind; a list or an
object is blamed where it begins. -/
def mismatch (expected : String) : List Char → Failure
  | [] => .on .endOfValue []
  | '[' :: rest => .before (.invalidType .sequence expected) ('[' :: rest)
  | '{' :: rest => .before (.invalidType .map expected) ('{' :: rest)
  | text =>
      match scalar? text with
      | some (.ok (value, rest)) => .before (.invalidType (.scalar value) expected) rest
      | some (.error failure) => failure
      | none => .on .expectedValue text

/-- A scalar of one kind. A scalar of another kind is read as a whole before it is
refused. -/
def readScalar (expected : String) (pick : Value → Option α) : Reader α where
  run text :=
    let front := dropBlank text
    match scalar? front with
    | some (.ok (value, rest)) =>
        match pick value with
        | some picked => .ok (picked, rest)
        | none => .error (.before (.invalidType (.scalar value) expected) rest)
    | _ => .error (mismatch expected front)
  consumes {text _ _} accepted := by
    simp only at accepted
    split at accepted
    · next found =>
      split at accepted
      · simp only [Except.ok.injEq, Prod.mk.injEq] at accepted
        exact accepted.2 ▸ Nat.lt_of_lt_of_le (scalar?_length_lt found) (dropBlank_length_le text)
      · simp at accepted
    · simp at accepted

/-- A string and nothing else. -/
def readString : Reader String :=
  readScalar "a string" Value.asString?

/-- A truth value and nothing else. -/
def readBool : Reader Bool :=
  readScalar "a boolean" Value.asBool?

end NodeDecl.Json
