import NodeDecl.Json.Printer
import NodeDecl.Json.Scalar.Text

/-!
# Strings are read back

A character of a string may be written in several ways: as it stands, with a short escape,
or with the digits of one or two code units.  Reading takes exactly the text of a
character and gives the character back, whichever way is chosen; writing chooses one of
them.
-/

namespace NodeDecl.Json

/-- The ways to write a character inside a string. -/
inductive CharText : Char → List Char → Prop
  | plain {c : Char} (printable : 32 ≤ c.toNat) (notQuote : c ≠ '"') (notBackslash : c ≠ '\\') :
      CharText c [c]
  | short {letter c : Char} (stands : shortEscape? letter = some c) :
      CharText c ['\\', letter]
  /-- A code unit that is no surrogate. -/
  | unit {a b c d : Char} {code : Nat} (digits : fourHexValue? a b c d = some code)
      (notLeading : isLeadingSurrogate code = false)
      (notTrailing : isTrailingSurrogate code = false) :
      CharText (Char.ofNat code) ['\\', 'u', a, b, c, d]
  /-- A pair of surrogates. -/
  | pair {a b c d e f g h : Char} {leading trailing : Nat}
      (first : fourHexValue? a b c d = some leading)
      (second : fourHexValue? e f g h = some trailing)
      (leads : isLeadingSurrogate leading = true)
      (trails : isTrailingSurrogate trailing = true) :
      CharText (Char.ofNat (pairedCode leading trailing))
        ['\\', 'u', a, b, c, d, '\\', 'u', e, f, g, h]

/-- The ways to write some characters and the quote that closes their string. -/
inductive CharsText : List Char → List Char → Prop
  | close : CharsText [] ['"']
  | more {c : Char} {chars piece text : List Char} (char : CharText c piece)
      (others : CharsText chars text) : CharsText (c :: chars) (piece ++ text)

/-- The ways to write a string. -/
inductive StringText : String → List Char → Prop
  | intro {string : String} {text : List Char} (chars : CharsText string.toList text) :
      StringText string ('"' :: text)

/-! ## Reading -/

/-- One character of a string is read back. -/
theorem stringPiece_charText {c : Char} {piece : List Char} (char : CharText c piece)
    (rest : List Char) : stringPiece (piece ++ rest) = .ok (some c, rest) := by
  cases char with
  | plain printable notQuote notBackslash =>
      rw [List.singleton_append, stringPiece]
      · rw [if_neg (Nat.not_lt.2 printable)]
      · exact notQuote
      · exact notBackslash
  | @short letter _ stands =>
      have other : letter ≠ 'u' := by
        rintro rfl
        contradiction
      show Outcome.map some (escapeSequence (letter :: rest)) = _
      rw [escapeSequence]
      · rw [stands]
        rfl
      · exact other
  | unit digits notLeading notTrailing =>
      simp [stringPiece, escapeSequence, unicodeEscape, fourHex, digits, notLeading,
        notTrailing, Outcome.map]
  | @pair _ _ _ _ _ _ _ _ leading _ first second leads trails =>
      have notTrailing : isTrailingSurrogate leading = false := by
        simp only [isLeadingSurrogate, isTrailingSurrogate, Bool.and_eq_true, Bool.and_eq_false_iff,
          decide_eq_true_eq, decide_eq_false_iff_not] at leads ⊢
        omega
      simp [stringPiece, escapeSequence, unicodeEscape, fourHex, trailingSurrogate, first, second,
        leads, trails, notTrailing, Outcome.map]

/-- A string behind its opening quote is read back, however it is written. -/
theorem stringBody_charsText {string : String} {text : List Char}
    (chars : CharsText string.toList text) (rest : List Char) :
    stringBody.run (text ++ rest) = .ok (string, rest) := by
  -- The loop carries the characters that it has read, in reverse.
  have general : ∀ {chars text : List Char}, CharsText chars text → ∀ read : List Char,
      Reader.iterate stringStep read (text ++ rest) =
        .ok (String.ofList (read.reverse ++ chars), rest) := by
    intro chars text spells
    induction spells with
    | close =>
        intro read
        rw [Reader.iterate_eq]
        simp [stringStep, stringPiece, Outcome.map]
    | more char _ ih =>
        intro read
        rw [Reader.iterate_eq, List.append_assoc]
        simp only [stringStep, stringPiece_charText char, Outcome.map]
        rw [ih, List.reverse_cons, List.append_assoc, List.singleton_append]
  have whole := general chars []
  rwa [List.reverse_nil, List.nil_append, String.ofList_toList] at whole

/-! ## Writing -/

/-- The four digits of a control character are read back. -/
theorem fourHexValue?_hexDigit {code : Nat} (control : code < 32) :
    fourHexValue? '0' '0' (hexDigit (code / 16)) (hexDigit (code % 16)) = some code := by
  have all : ∀ code < 32,
      fourHexValue? '0' '0' (hexDigit (code / 16)) (hexDigit (code % 16)) = some code := by
    decide
  exact all code control

/-- The escape of a control character. -/
theorem charText_control {c : Char} (control : c.toNat < 32) :
    CharText c ['\\', 'u', '0', '0', hexDigit (c.toNat / 16), hexDigit (c.toNat % 16)] := by
  have trailing : isTrailingSurrogate c.toNat = false := by
    rw [isTrailingSurrogate, Bool.and_eq_false_iff]
    left
    exact decide_eq_false (by omega)
  have leading : isLeadingSurrogate c.toNat = false := by
    rw [isLeadingSurrogate, Bool.and_eq_false_iff]
    left
    exact decide_eq_false (by omega)
  have spelled := CharText.unit (fourHexValue?_hexDigit control) leading trailing
  rwa [Char.ofNat_toNat] at spelled

/-- The characters with a short escape. -/
def shortlyEscaped : List Char :=
  ['"', '\\', '\n', '\r', '\t', '\x08', '\x0c']

/-- A character without a short escape. -/
theorem escape_of_not_mem {c : Char} (long : c ∉ shortlyEscaped) :
    escape c =
      if c.toNat < 32 then
        ['\\', 'u', '0', '0', hexDigit (c.toNat / 16), hexDigit (c.toNat % 16)]
      else [c] := by
  simp only [shortlyEscaped, List.mem_cons, List.not_mem_nil, or_false, not_or] at long
  rcases long with ⟨quote, backslash, lineFeed, carriageReturn, tab, backspace, formFeed⟩
  rw [escape, if_neg quote, if_neg backslash, if_neg lineFeed, if_neg carriageReturn,
    if_neg tab, if_neg backspace, if_neg formFeed]

/-- Writing chooses one of the ways to write a character. -/
theorem charText_escape (c : Char) : CharText c (escape c) := by
  by_cases short : c ∈ shortlyEscaped
  · simp only [shortlyEscaped, List.mem_cons, List.not_mem_nil, or_false] at short
    rcases short with rfl | rfl | rfl | rfl | rfl | rfl | rfl <;> exact .short rfl
  · rw [escape_of_not_mem short]
    split
    · next control => exact charText_control control
    · next printable =>
        simp only [shortlyEscaped, List.mem_cons, not_or] at short
        exact .plain (Nat.not_lt.1 printable) short.1 short.2.1

/-- Characters that are written one by one. -/
theorem charsText_flatMap_escape (chars : List Char) :
    CharsText chars (chars.flatMap escape ++ ['"']) := by
  induction chars with
  | nil => exact .close
  | cons c chars ih =>
      rw [List.flatMap_cons, List.append_assoc]
      exact .more (charText_escape c) ih

/-- Writing chooses one of the ways to write a string. -/
theorem stringText_quote (string : String) : StringText string (quote string) :=
  .intro (charsText_flatMap_escape string.toList)

end NodeDecl.Json
