import NodeDecl.Json.Reader

/-!
# Reading numbers

A number text is a significand and a power of ten. The significand takes up
digits as long as it stays below `2 ^ 64`; integer digits after that only raise the
power, and fraction digits after that are dropped. A text that is an integer
throughout, fits 64 bits with its sign and is not a negative zero stays an
integer; any other becomes a double. Each function comes with the lemma that it
consumes text, which `Reader` asks for.
-/

namespace NodeDecl.Json

/-- The value of a decimal digit. -/
def digitValue (c : Char) : Nat :=
  c.toNat - '0'.toNat

/-- The significands that are taken digit by digit stay below this bound. -/
def significandBound : Nat := 18446744073709551616

/-- The largest magnitude of a negative integer. -/
def greatestNegative : Nat := 9223372036854775808

/-- Digits taken into a significand as long as it stays below `2 ^ 64`: the
significand, how many digits were taken, and the text behind them. -/
def takeDigits (significand : Nat) : List Char → Nat × Nat × List Char
  | [] => (significand, 0, [])
  | c :: rest =>
      let next := significand * 10 + digitValue c
      if c.isDigit ∧ next < significandBound then
        let (total, count, behind) := takeDigits next rest
        (total, count + 1, behind)
      else (significand, 0, c :: rest)

theorem takeDigits_length_le (significand : Nat) (text : List Char) :
    (takeDigits significand text).2.2.length ≤ text.length := by
  fun_induction takeDigits significand text with
  | case1 => exact Nat.le_refl _
  | case2 _ _ _ _ _ _ _ _ taken ih =>
    rw [taken] at ih
    exact Nat.le_succ_of_le ih
  | case3 => exact Nat.le_refl _

/-- The text behind the digits at its front. -/
def dropDigits (text : List Char) : List Char :=
  text.dropWhile Char.isDigit

theorem dropDigits_length_le (text : List Char) : (dropDigits text).length ≤ text.length :=
  (List.dropWhile_sublist Char.isDigit).length_le

/-- The number of digits at the front of a text. -/
def countDigits (text : List Char) : Nat :=
  (text.takeWhile Char.isDigit).length

/-- A double from its decimal parts. -/
def finishNumber (negative : Bool) (significand : Nat) (power : Int) (rest : List Char) :
    Outcome Number :=
  match Double.ofDecimal? negative significand power with
  | some value => .ok (.double value, rest)
  | none => .error (.before .numberOutOfRange rest)

theorem finishNumber_rest {negative : Bool} {significand : Nat} {power : Int}
    {text rest : List Char} {number : Number}
    (accepted : finishNumber negative significand power text = .ok (number, rest)) :
    rest = text := by
  unfold finishNumber at accepted
  split at accepted <;> simp_all

/-- The largest exponent that is read as it stands. -/
def greatestExponentText : Nat := 2147483647

/-- The digits of an exponent, or `none` as soon as they exceed the largest one;
then the text behind the digit that did so. -/
def takeExponent (exponent : Nat) : List Char → Option Nat × List Char
  | [] => (some exponent, [])
  | c :: rest =>
      if c.isDigit then
        let next := exponent * 10 + digitValue c
        if next ≤ greatestExponentText then takeExponent next rest else (none, rest)
      else (some exponent, c :: rest)

theorem takeExponent_length_le (exponent : Nat) (text : List Char) :
    (takeExponent exponent text).2.length ≤ text.length := by
  fun_induction takeExponent exponent text with
  | case1 => exact Nat.le_refl _
  | case2 _ _ _ _ _ _ ih => exact Nat.le_succ_of_le ih
  | case3 => exact Nat.le_succ _
  | case4 => exact Nat.le_refl _

/-- The text behind an optional sign, and whether the sign is a minus. -/
def takeSign : List Char → Bool × List Char
  | '+' :: rest => (false, rest)
  | '-' :: rest => (true, rest)
  | text => (false, text)

theorem takeSign_length_le (text : List Char) : (takeSign text).2.length ≤ text.length := by
  unfold takeSign
  split <;> simp

/-- The part of a number behind the letter of its exponent. An exponent beyond the
largest one makes the number zero, unless it raises a significand that is not. -/
def exponentPart (negative : Bool) (significand : Nat) (power : Int) (text : List Char) :
    Outcome Number :=
  let (down, digits) := takeSign text
  match digits with
  | [] => .error (.before .endOfValue [])
  | c :: rest =>
      if c.isDigit then
        match takeExponent (digitValue c) rest with
        | (some exponent, behind) =>
            finishNumber negative significand
              (if down then power - exponent else power + exponent) behind
        | (none, behind) =>
            if significand ≠ 0 ∧ down = false then .error (.before .numberOutOfRange behind)
            else .ok (.double (.zero negative), dropDigits behind)
      else .error (.on .invalidNumber (c :: rest))

theorem exponentPart_length_le {negative : Bool} {significand : Nat} {power : Int}
    {text rest : List Char} {number : Number}
    (accepted : exponentPart negative significand power text = .ok (number, rest)) :
    rest.length ≤ text.length := by
  have signed := takeSign_length_le text
  unfold exponentPart at accepted
  split at accepted
  next down digits equal =>
    rw [equal] at signed
    split at accepted
    · simp at accepted
    · next c behind =>
      simp only [List.length_cons] at signed
      have taken := takeExponent_length_le (digitValue c) behind
      split at accepted
      · split at accepted
        · next found =>
          rw [found] at taken
          have := finishNumber_rest accepted
          subst this
          simp only at taken
          omega
        · next found =>
          rw [found] at taken
          split at accepted
          · simp at accepted
          · next overflow _ =>
            simp only [Except.ok.injEq, Prod.mk.injEq] at accepted
            rw [← accepted.2]
            exact Nat.le_trans (dropDigits_length_le overflow) (by simp only at taken; omega)
      · simp at accepted

/-- What may follow the digits of a fraction. -/
def afterFraction (negative : Bool) (significand : Nat) (power : Int) :
    List Char → Outcome Number
  | 'e' :: rest | 'E' :: rest => exponentPart negative significand power rest
  | text => finishNumber negative significand power text

theorem afterFraction_length_le {negative : Bool} {significand : Nat} {power : Int}
    {text rest : List Char} {number : Number}
    (accepted : afterFraction negative significand power text = .ok (number, rest)) :
    rest.length ≤ text.length := by
  unfold afterFraction at accepted
  split at accepted
  · have := exponentPart_length_le accepted
    simp only [List.length_cons]
    omega
  · have := exponentPart_length_le accepted
    simp only [List.length_cons]
    omega
  · exact Nat.le_of_eq (congrArg List.length (finishNumber_rest accepted))

/-- The part of a number behind its decimal point, which has at least one digit. -/
def fractionPart (negative : Bool) (significand : Nat) (power : Int) (text : List Char) :
    Outcome Number :=
  let (total, count, rest) := takeDigits significand text
  let behind := dropDigits rest
  if countDigits text = 0 then
    match text with
    | [] => .error (.on .endOfValue [])
    | _ => .error (.on .invalidNumber text)
  else afterFraction negative total (power - count) behind

theorem fractionPart_length_le {negative : Bool} {significand : Nat} {power : Int}
    {text rest : List Char} {number : Number}
    (accepted : fractionPart negative significand power text = .ok (number, rest)) :
    rest.length ≤ text.length := by
  unfold fractionPart at accepted
  have taken := takeDigits_length_le significand text
  have dropped := dropDigits_length_le (takeDigits significand text).2.2
  simp only at accepted
  split at accepted
  · split at accepted <;> simp at accepted
  · exact Nat.le_trans (afterFraction_length_le accepted) (Nat.le_trans dropped taken)

/-- What may follow the digits before the decimal point: `extra` of them did not
fit the significand. -/
def afterInteger (negative : Bool) (significand extra : Nat) : List Char → Outcome Number
  | '.' :: rest => fractionPart negative significand extra rest
  | 'e' :: rest | 'E' :: rest => exponentPart negative significand extra rest
  | text =>
      if extra = 0 ∧ negative = false then .ok (.integer significand, text)
      else if extra = 0 ∧ 0 < significand ∧ significand ≤ greatestNegative then
        .ok (.integer (-significand), text)
      else finishNumber negative significand extra text

theorem afterInteger_length_le {negative : Bool} {significand extra : Nat}
    {text rest : List Char} {number : Number}
    (accepted : afterInteger negative significand extra text = .ok (number, rest)) :
    rest.length ≤ text.length := by
  unfold afterInteger at accepted
  split at accepted
  · have := fractionPart_length_le accepted
    simp only [List.length_cons]
    omega
  · have := exponentPart_length_le accepted
    simp only [List.length_cons]
    omega
  · have := exponentPart_length_le accepted
    simp only [List.length_cons]
    omega
  · split at accepted
    · simp_all
    · split at accepted
      · simp_all
      · exact Nat.le_of_eq (congrArg List.length (finishNumber_rest accepted))

/-- A number behind its sign. No digit may follow a leading zero. -/
def number (negative : Bool) : List Char → Outcome Number
  | [] => .error (.before .endOfValue [])
  | c :: rest =>
      if c = '0' then
        if countDigits rest = 0 then afterInteger negative 0 0 rest
        else .error (.on .invalidNumber rest)
      else if c.isDigit then
        let (significand, _, behind) := takeDigits (digitValue c) rest
        afterInteger negative significand (countDigits behind) (dropDigits behind)
      else .error (.on .invalidNumber (c :: rest))

theorem number_length_lt {negative : Bool} {text rest : List Char} {value : Number}
    (accepted : number negative text = .ok (value, rest)) : rest.length < text.length := by
  unfold number at accepted
  split at accepted
  · simp at accepted
  · next c behind =>
    simp only [List.length_cons]
    split at accepted
    · split at accepted
      · have := afterInteger_length_le accepted
        omega
      · simp at accepted
    · split at accepted
      · have taken := takeDigits_length_le (digitValue c) behind
        have dropped := dropDigits_length_le (takeDigits (digitValue c) behind).2.2
        exact Nat.lt_succ_of_le
          (Nat.le_trans (afterInteger_length_le accepted) (Nat.le_trans dropped taken))
      · simp at accepted

end NodeDecl.Json
