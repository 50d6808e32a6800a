import NodeDecl.Json.Reader

/-!
# Reading strings

A string runs from quote to quote. A backslash begins an escape: one letter, or
`u` with the four hexadecimal digits of a code unit, where characters beyond
U+FFFF are written as a pair of surrogates. Control characters must be escaped.
-/

namespace NodeDecl.Json

/-- The character that a letter behind a backslash stands for. -/
def shortEscape? : Char → Option Char
  | '"' => some '"'
  | '\\' => some '\\'
  | '/' => some '/'
  | 'b' => some '\x08'
  | 'f' => some '\x0c'
  | 'n' => some '\n'
  | 'r' => some '\r'
  | 't' => some '\t'
  | _ => none

/-- The value of a hexadecimal digit in either case. -/
def hexValue? (c : Char) : Option Nat :=
  if c.isDigit then some (c.toNat - '0'.toNat)
  else if 'a' ≤ c ∧ c ≤ 'f' then some (c.toNat - 'a'.toNat + 10)
  else if 'A' ≤ c ∧ c ≤ 'F' then some (c.toNat - 'A'.toNat + 10)
  else none

/-- The value of four hexadecimal digits. -/
def fourHexValue? (a b c d : Char) : Option Nat := do
  let a ← hexValue? a
  let b ← hexValue? b
  let c ← hexValue? c
  let d ← hexValue? d
  return ((a * 16 + b) * 16 + c) * 16 + d

/-- The failure where four hexadecimal digits are missing: four bytes of something
else are blamed as a whole, and fewer bytes are the end of the text. -/
def hexFailure (text : List Char) : Failure :=
  if (String.ofList text).utf8ByteSize < 4 then .before .endOfString []
  else { reason := .invalidEscape, unread := text, beyond := 4 }

/-- Four hexadecimal digits. -/
def fourHex : List Char → Outcome Nat
  | a :: b :: c :: d :: rest =>
      match fourHexValue? a b c d with
      | some value => .ok (value, rest)
      | none => .error (hexFailure (a :: b :: c :: d :: rest))
  | text => .error (hexFailure text)

theorem fourHex_length_le {text rest : List Char} {value : Nat}
    (accepted : fourHex text = .ok (value, rest)) : rest.length ≤ text.length := by
  unfold fourHex at accepted
  split at accepted
  · split at accepted
    · simp only [Except.ok.injEq, Prod.mk.injEq] at accepted
      rw [← accepted.2]
      simp only [List.length_cons]
      omega
    · simp at accepted
  · simp at accepted

/-- A code unit that opens a surrogate pair. -/
def isLeadingSurrogate (unit : Nat) : Bool :=
  0xD800 ≤ unit && unit < 0xDC00

/-- A code unit that closes a surrogate pair. -/
def isTrailingSurrogate (unit : Nat) : Bool :=
  0xDC00 ≤ unit && unit < 0xE000

/-- The code point of a surrogate pair. -/
def pairedCode (leading trailing : Nat) : Nat :=
  (leading - 0xD800) * 0x400 + (trailing - 0xDC00) + 0x10000

/-- The escape that must close a surrogate pair. -/
def trailingSurrogate (leading : Nat) : List Char → Outcome Char
  | [] => .error (.before .endOfString [])
  | ['\\'] => .error (.before .endOfString [])
  | '\\' :: 'u' :: rest =>
      match fourHex rest with
      | .error failure => .error failure
      | .ok (trailing, behind) =>
          if isTrailingSurrogate trailing then
            .ok (Char.ofNat (pairedCode leading trailing), behind)
          else .error (.before .loneLeadingSurrogate behind)
  | '\\' :: text => .error (.on .unexpectedEndOfHexEscape text)
  | text => .error (.on .unexpectedEndOfHexEscape text)

theorem trailingSurrogate_length_le {leading : Nat} {text rest : List Char} {value : Char}
    (accepted : trailingSurrogate leading text = .ok (value, rest)) :
    rest.length ≤ text.length := by
  unfold trailingSurrogate at accepted
  split at accepted
  · simp at accepted
  · simp at accepted
  · split at accepted
    · simp at accepted
    · next hex =>
      have := fourHex_length_le hex
      split at accepted
      · simp only [Except.ok.injEq, Prod.mk.injEq] at accepted
        rw [← accepted.2]
        simp only [List.length_cons]
        omega
      · simp at accepted
  · simp at accepted
  · simp at accepted

/-- The part of an escape behind its letter `u`. Characters beyond U+FFFF are
written as a surrogate pair, and no surrogate may stand alone. -/
def unicodeEscape (text : List Char) : Outcome Char :=
  match fourHex text with
  | .error failure => .error failure
  | .ok (unit, rest) =>
      if isTrailingSurrogate unit then .error (.before .loneLeadingSurrogate rest)
      else if isLeadingSurrogate unit then trailingSurrogate unit rest
      else .ok (Char.ofNat unit, rest)

theorem unicodeEscape_length_le {text rest : List Char} {value : Char}
    (accepted : unicodeEscape text = .ok (value, rest)) : rest.length ≤ text.length := by
  unfold unicodeEscape at accepted
  split at accepted
  · simp at accepted
  · next hex =>
    have := fourHex_length_le hex
    split at accepted
    · simp at accepted
    · split at accepted
      · have := trailingSurrogate_length_le accepted
        omega
      · simp only [Except.ok.injEq, Prod.mk.injEq] at accepted
        rw [← accepted.2]
        omega

/-- The part of an escape behind its backslash. -/
def escapeSequence : List Char → Outcome Char
  | [] => .error (.before .endOfString [])
  | 'u' :: rest => unicodeEscape rest
  | c :: rest =>
      match shortEscape? c with
      | some value => .ok (value, rest)
      | none => .error (.on .invalidEscape (c :: rest))

theorem escapeSequence_length_le {text rest : List Char} {value : Char}
    (accepted : escapeSequence text = .ok (value, rest)) : rest.length ≤ text.length := by
  unfold escapeSequence at accepted
  split at accepted
  · simp at accepted
  · have := unicodeEscape_length_le accepted
    simp only [List.length_cons]
    omega
  · split at accepted
    · simp only [Except.ok.injEq, Prod.mk.injEq] at accepted
      rw [← accepted.2]
      simp
    · simp at accepted

/-- One character of a string, or `none` at the closing quote. -/
def stringPiece : List Char → Outcome (Option Char)
  | [] => .error (.before .endOfString [])
  | '"' :: rest => .ok (none, rest)
  | '\\' :: rest => (escapeSequence rest).map some
  | c :: rest =>
      if c.toNat < 32 then .error (.on .controlCharacter (c :: rest))
      else .ok (some c, rest)

theorem stringPiece_length_lt {text rest : List Char} {value : Option Char}
    (accepted : stringPiece text = .ok (value, rest)) : rest.length < text.length := by
  unfold stringPiece at accepted
  split at accepted
  · simp at accepted
  · simp only [Except.ok.injEq, Prod.mk.injEq] at accepted
    rw [← accepted.2]
    simp
  · obtain ⟨_, inner, _⟩ := Outcome.map_eq_ok accepted
    have := escapeSequence_length_le inner
    simp only [List.length_cons]
    omega
  · split at accepted
    · simp at accepted
    · simp only [Except.ok.injEq, Prod.mk.injEq] at accepted
      rw [← accepted.2]
      simp

/-- One turn of reading a string, with the characters so far in reverse. -/
def stringStep (read : List Char) : Reader (List Char ⊕ String) where
  run text := (stringPiece text).map fun
    | some c => .inl (c :: read)
    | none => .inr (String.ofList read.reverse)
  consumes accepted := by
    obtain ⟨_, inner, _⟩ := Outcome.map_eq_ok accepted
    exact stringPiece_length_lt inner

/-- The part of a string behind its opening quote. -/
def stringBody : Reader String :=
  .loop stringStep []

end NodeDecl.Json
