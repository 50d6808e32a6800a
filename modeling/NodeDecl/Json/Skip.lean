import NodeDecl.Json.Scalar

/-!
# Skipping values

A value that nobody asked for is only checked for its form. Skipping knows which
lists and objects are open and keeps no value, so there is no limit on nesting; it
checks neither the range of numbers nor the pairing of surrogates.
-/

namespace NodeDecl.Json

namespace Skip

/-! ## Scalars -/

/-- A digit and the digits behind it, which are at least one. -/
def digits : List Char → Outcome Unit
  | [] => .error (.on .invalidNumber [])
  | c :: rest =>
      if c.isDigit then .ok ((), dropDigits rest) else .error (.on .invalidNumber (c :: rest))

theorem digits_length_le {text rest : List Char}
    (accepted : digits text = .ok ((), rest)) : rest.length ≤ text.length := by
  unfold digits at accepted
  split at accepted
  · simp at accepted
  · next c behind =>
    split at accepted
    · simp only [Except.ok.injEq, Prod.mk.injEq, true_and] at accepted
      rw [← accepted]
      exact Nat.le_succ_of_le (dropDigits_length_le behind)
    · simp at accepted

/-- What may follow the fraction of a number: the letter of an exponent, a sign and
digits. -/
def exponent : List Char → Outcome Unit
  | 'e' :: rest | 'E' :: rest => digits (takeSign rest).2
  | text => .ok ((), text)

theorem exponent_length_le {text rest : List Char}
    (accepted : exponent text = .ok ((), rest)) : rest.length ≤ text.length := by
  unfold exponent at accepted
  split at accepted
  · next behind =>
    exact Nat.le_succ_of_le
      (Nat.le_trans (digits_length_le accepted) (takeSign_length_le behind))
  · next behind =>
    exact Nat.le_succ_of_le
      (Nat.le_trans (digits_length_le accepted) (takeSign_length_le behind))
  · simp_all

/-- What may follow the integer part of a number. -/
def fraction : List Char → Outcome Unit
  | '.' :: rest =>
      match digits rest with
      | .ok ((), behind) => exponent behind
      | .error failure => .error failure
  | text => exponent text

theorem fraction_length_le {text rest : List Char}
    (accepted : fraction text = .ok ((), rest)) : rest.length ≤ text.length := by
  unfold fraction at accepted
  split at accepted
  · split at accepted
    · next inner =>
      exact Nat.le_succ_of_le
        (Nat.le_trans (exponent_length_le accepted) (digits_length_le inner))
    · simp at accepted
  · exact exponent_length_le accepted

/-- A number behind its sign. -/
def number : List Char → Outcome Unit
  | [] => .error (.on .invalidNumber [])
  | c :: rest =>
      if c = '0' then
        if countDigits rest = 0 then fraction rest else .error (.on .invalidNumber rest)
      else if c.isDigit then fraction (dropDigits rest)
      else .error (.on .invalidNumber (c :: rest))

theorem number_length_lt {text rest : List Char}
    (accepted : number text = .ok ((), rest)) : rest.length < text.length := by
  unfold number at accepted
  split at accepted
  · simp at accepted
  · next c behind =>
    split at accepted
    · split at accepted
      · exact Nat.lt_succ_of_le (fraction_length_le accepted)
      · simp at accepted
    · split at accepted
      · exact Nat.lt_succ_of_le
          (Nat.le_trans (fraction_length_le accepted) (dropDigits_length_le behind))
      · simp at accepted

/-- The part of an escape behind its backslash. -/
def escape : List Char → Outcome Unit
  | [] => .error (.before .endOfString [])
  | 'u' :: rest => (fourHex rest).map fun _ => ()
  | c :: rest =>
      match shortEscape? c with
      | some _ => .ok ((), rest)
      | none => .error (.on .invalidEscape (c :: rest))

theorem escape_length_le {text rest : List Char}
    (accepted : escape text = .ok ((), rest)) : rest.length ≤ text.length := by
  unfold escape at accepted
  split at accepted
  · simp at accepted
  · obtain ⟨_, inner, _⟩ := Outcome.map_eq_ok accepted
    exact Nat.le_succ_of_le (fourHex_length_le inner)
  · split at accepted
    · simp only [Except.ok.injEq, Prod.mk.injEq, true_and] at accepted
      rw [← accepted]
      simp
    · simp at accepted

/-- One character of a string: whether the string goes on behind it. -/
def stringPiece : List Char → Outcome Bool
  | [] => .error (.before .endOfString [])
  | '"' :: rest => .ok (false, rest)
  | '\\' :: rest => (escape rest).map fun _ => true
  | c :: rest =>
      if c.toNat < 32 then .error (.before .controlCharacter (c :: rest)) else .ok (true, rest)

theorem stringPiece_length_lt {text rest : List Char} {more : Bool}
    (accepted : stringPiece text = .ok (more, rest)) : rest.length < text.length := by
  unfold stringPiece at accepted
  split at accepted
  · simp at accepted
  · simp only [Except.ok.injEq, Prod.mk.injEq] at accepted
    rw [← accepted.2]
    simp
  · obtain ⟨_, inner, _⟩ := Outcome.map_eq_ok accepted
    exact Nat.lt_succ_of_le (escape_length_le inner)
  · split at accepted
    · simp at accepted
    · simp only [Except.ok.injEq, Prod.mk.injEq] at accepted
      rw [← accepted.2]
      simp

/-- One turn of skipping a string. -/
def stringStep (_ : Unit) : Reader (Unit ⊕ Unit) where
  run text := (stringPiece text).map fun more => if more then .inl () else .inr ()
  consumes accepted := by
    obtain ⟨_, inner, _⟩ := Outcome.map_eq_ok accepted
    exact stringPiece_length_lt inner

/-- The part of a string behind its opening quote. -/
def stringBody : Reader Unit :=
  .loop stringStep ()

/-- A scalar at the front of a text, told by its first character. -/
def scalar? : List Char → Option (Outcome Unit)
  | 'n' :: rest => some ((word .null ['u', 'l', 'l'] rest).map fun _ => ())
  | 't' :: rest => some ((word (.bool true) ['r', 'u', 'e'] rest).map fun _ => ())
  | 'f' :: rest => some ((word (.bool false) ['a', 'l', 's', 'e'] rest).map fun _ => ())
  | '-' :: rest => some (number rest)
  | '"' :: rest => some (stringBody.run rest)
  | c :: rest => if c.isDigit then some (number (c :: rest)) else none
  | [] => none

theorem scalar?_length_lt {text rest : List Char}
    (accepted : scalar? text = some (.ok ((), rest))) : rest.length < text.length := by
  unfold scalar? at accepted
  split at accepted
  · obtain ⟨_, inner, _⟩ := Outcome.map_eq_ok (Option.some.inj accepted)
    exact Nat.lt_succ_of_le (word_length_le inner)
  · obtain ⟨_, inner, _⟩ := Outcome.map_eq_ok (Option.some.inj accepted)
    exact Nat.lt_succ_of_le (word_length_le inner)
  · obtain ⟨_, inner, _⟩ := Outcome.map_eq_ok (Option.some.inj accepted)
    exact Nat.lt_succ_of_le (word_length_le inner)
  · exact Nat.lt_succ_of_lt (number_length_lt (Option.some.inj accepted))
  · exact Nat.lt_succ_of_lt (stringBody.consumes (Option.some.inj accepted))
  · split at accepted
    · exact number_length_lt (Option.some.inj accepted)
    · simp at accepted
  · simp at accepted

/-! ## Lists and objects -/

/-- What is open while a value is skipped. -/
inductive Frame where
  | list
  | object
deriving DecidableEq, Repr

namespace Frame

/-- The bracket that closes a frame. -/
def closing : Frame → Char
  | .list => ']'
  | .object => '}'

/-- The failure at the end of the text. -/
def endReason : Frame → Reason
  | .list => .endOfList
  | .object => .endOfObject

/-- The failure where neither a comma nor the closing bracket stands. -/
def commaReason : Frame → Reason
  | .list => .expectedListCommaOrEnd
  | .object => .expectedObjectCommaOrEnd

end Frame

/-- How far skipping has come. -/
inductive State where
  /-- A value comes next, inside some open frames. -/
  | value (frames : List Frame)
  /-- A frame has just been opened. -/
  | opened (frame : Frame) (outer : List Frame)
  /-- A value inside a frame is complete. -/
  | behindValue (frame : Frame) (outer : List Frame)
  /-- A member comes next, inside an object. -/
  | member (outer : List Frame)
deriving DecidableEq, Repr

/-- The state behind a complete value. -/
def behind : List Frame → State ⊕ Unit
  | [] => .inr ()
  | frame :: outer => .inl (.behindValue frame outer)

/-- The beginning of a value, or a scalar as a whole. -/
def valueStep (frames : List Frame) : List Char → Outcome (State ⊕ Unit)
  | [] => .error (.on .endOfValue [])
  | '[' :: rest => .ok (.inl (.opened .list frames), rest)
  | '{' :: rest => .ok (.inl (.opened .object frames), rest)
  | text =>
      match scalar? text with
      | some outcome => outcome.map fun _ => behind frames
      | none => .error (.on .expectedValue text)

theorem valueStep_length_lt {frames : List Frame} {text rest : List Char} {next : State ⊕ Unit}
    (accepted : valueStep frames text = .ok (next, rest)) : rest.length < text.length := by
  unfold valueStep at accepted
  split at accepted
  · simp at accepted
  · simp only [Except.ok.injEq, Prod.mk.injEq] at accepted
    rw [← accepted.2]
    simp
  · simp only [Except.ok.injEq, Prod.mk.injEq] at accepted
    rw [← accepted.2]
    simp
  · split at accepted
    · next outcome found =>
      obtain ⟨_, inner, _⟩ := Outcome.map_eq_ok accepted
      subst inner
      exact scalar?_length_lt found
    · simp at accepted

/-- The key of a member and its colon. -/
def memberStep (outer : List Frame) : List Char → Outcome (State ⊕ Unit)
  | [] => .error (.on .endOfObject [])
  | '"' :: rest =>
      match stringBody.run rest with
      | .error failure => .error failure
      | .ok ((), text) => (colon (dropBlank text)).map fun _ => .inl (.value (.object :: outer))
  | text => .error (.on .keyMustBeString text)

theorem memberStep_length_lt {outer : List Frame} {text rest : List Char} {next : State ⊕ Unit}
    (accepted : memberStep outer text = .ok (next, rest)) : rest.length < text.length := by
  unfold memberStep at accepted
  split at accepted
  · simp at accepted
  · split at accepted
    · simp at accepted
    · next text body =>
      obtain ⟨_, inner, _⟩ := Outcome.map_eq_ok accepted
      have blank := dropBlank_length_le text
      exact Nat.lt_succ_of_lt (Nat.lt_trans
        (Nat.lt_of_lt_of_le (colon_length_lt inner) blank) (stringBody.consumes body))
  · simp at accepted

/-- One turn of skipping, on a text without blanks at its front. -/
def advance : State → List Char → Outcome (State ⊕ Unit)
  | .value frames, text => valueStep frames text
  | .member outer, text => memberStep outer text
  | .opened frame _, [] | .behindValue frame _, [] => .error (.on frame.endReason [])
  | .opened frame outer, c :: rest =>
      if c = frame.closing then .ok (behind outer, rest)
      else
        match frame with
        | .list => valueStep (.list :: outer) (c :: rest)
        | .object => memberStep outer (c :: rest)
  | .behindValue frame outer, c :: rest =>
      if c = frame.closing then .ok (behind outer, rest)
      else if c = ',' then
        match frame with
        | .list => .ok (.inl (.value (.list :: outer)), rest)
        | .object => .ok (.inl (.member outer), rest)
      else .error (.on frame.commaReason (c :: rest))

theorem advance_length_lt {state : State} {text rest : List Char} {next : State ⊕ Unit}
    (accepted : advance state text = .ok (next, rest)) : rest.length < text.length := by
  unfold advance at accepted
  split at accepted
  · exact valueStep_length_lt accepted
  · exact memberStep_length_lt accepted
  · simp at accepted
  · simp at accepted
  · split at accepted
    · simp only [Except.ok.injEq, Prod.mk.injEq] at accepted
      rw [← accepted.2]
      simp
    · split at accepted
      · exact valueStep_length_lt accepted
      · exact memberStep_length_lt accepted
  · split at accepted
    · simp only [Except.ok.injEq, Prod.mk.injEq] at accepted
      rw [← accepted.2]
      simp
    · split at accepted
      · split at accepted <;>
        · simp only [Except.ok.injEq, Prod.mk.injEq] at accepted
          rw [← accepted.2]
          simp
      · simp at accepted

/-- One turn of skipping. -/
def step (state : State) : Reader (State ⊕ Unit) where
  run text := advance state (dropBlank text)
  consumes {text _ _} accepted :=
    Nat.lt_of_lt_of_le (advance_length_lt accepted) (dropBlank_length_le text)

end Skip

/-- The reader that passes over one value. -/
def skip : Reader Unit :=
  .loop Skip.step (.value [])

end NodeDecl.Json
