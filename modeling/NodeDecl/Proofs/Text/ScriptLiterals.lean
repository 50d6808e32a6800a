import Mathlib.Data.List.Infix
import NodeDecl.Json.Scalar.Text

/-!
# Reading the literals of a script

How a script of strict mode is read where a string or a template begins.  The value of
either is a sequence of code units.  A string ends at the quote that opened it.  A template
ends at its backtick, or for now at an unescaped `$` with an opening brace behind it, where
the first of its substitutions begins.
-/

namespace NodeDecl.Script

open Json (hexValue?)

/-! ## Code units -/

/-- The code units of a code point: those beyond U+FFFF take a pair of surrogates. -/
def codeUnits (code : Nat) : List Nat :=
  if code < 0x10000 then [code]
  else [0xD800 + (code - 0x10000) / 0x400, 0xDC00 + (code - 0x10000) % 0x400]

/-- The code units of some characters. -/
def codeUnitsOf (chars : List Char) : List Nat :=
  chars.flatMap fun c => codeUnits c.toNat

/-- Characters differ in their code units. -/
theorem codeUnits_inj {c d : Char} (equal : codeUnits c.toNat = codeUnits d.toNat) : c = d := by
  have codes : c.toNat = d.toNat := by
    unfold codeUnits at equal
    split at equal <;> split at equal <;>
      simp only [List.cons.injEq, and_true, reduceCtorEq, and_false] at equal <;> omega
  rw [← Char.ofNat_toNat c, codes, Char.ofNat_toNat]

/-! ## Characters -/

/-- The value of some hexadecimal digits. -/
def hexNumber? (digits : List Char) : Option Nat :=
  digits.foldlM (fun number digit => (hexValue? digit).map (number * 16 + ·)) 0

/-- The code unit of a letter that has a meaning of its own behind a backslash. -/
def controlEscape? : Char → Option Nat
  | 'b' => some 0x08
  | 't' => some 0x09
  | 'n' => some 0x0A
  | 'v' => some 0x0B
  | 'f' => some 0x0C
  | 'r' => some 0x0D
  | _ => none

/-- The characters that end a line. -/
def lineTerminators : List Char :=
  ['\n', '\r', '\u2028', '\u2029']

/-- The braces of an escape, behind the opening one, with the digits of a code point between
them. -/
def readCodePoint (text : List Char) : Option (List Nat × List Char) :=
  match text.takeWhile (· ≠ '\x7d'), text.dropWhile (· ≠ '\x7d') with
  | digit :: digits, _ :: rest => do
      let code ← hexNumber? (digit :: digits)
      if code ≤ 0x10FFFF then some (codeUnits code, rest) else none
  | _, _ => none

/-- The part of an escape behind its backslash.  A line terminator stands for nothing, no
digit stands for itself, and `0` is the null character unless a digit follows. -/
def readEscape : List Char → Option (List Nat × List Char)
  | 'x' :: a :: b :: rest => (hexNumber? [a, b]).map fun unit => ([unit], rest)
  | 'u' :: '\x7b' :: rest => readCodePoint rest
  | 'u' :: a :: b :: c :: d :: rest => (hexNumber? [a, b, c, d]).map fun unit => ([unit], rest)
  | '\r' :: '\n' :: rest => some ([], rest)
  | c :: rest =>
      if c = 'x' ∨ c = 'u' then none
      else if c ∈ lineTerminators then some ([], rest)
      else if c = '0' ∧ rest.head?.all (!·.isDigit) then some ([0], rest)
      else if c.isDigit then none
      else
        match controlEscape? c with
        | some unit => some ([unit], rest)
        | none => some (codeUnits c.toNat, rest)
  | [] => none

/-- One character of a literal within some quotes, with the code units it stands for.  Ends
of lines are for templates only. -/
def readCharacter (quote : Char) : List Char → Option (List Nat × List Char)
  | '\\' :: rest => readEscape rest
  | '\r' :: '\n' :: rest => if quote = '\x60' then some ([0x0A], rest) else none
  | c :: rest =>
      if c = '\r' ∨ c = '\n' then if quote = '\x60' then some ([0x0A], rest) else none
      else some (codeUnits c.toNat, rest)
  | [] => none

variable {quote : Char} {text rest : List Char} {units : List Nat}

theorem readCodePoint_length_le (accepted : readCodePoint text = some (units, rest)) :
    rest.length ≤ text.length := by
  unfold readCodePoint at accepted
  split at accepted
  · next behind _ found =>
      obtain ⟨_, _, accepted⟩ := Option.bind_eq_some_iff.1 accepted
      split at accepted
      · obtain ⟨-, rfl⟩ := Prod.mk.inj (Option.some.inj accepted)
        have shorter := (List.dropWhile_suffix (l := text) (· ≠ '\x7d')).length_le
        rw [found, List.length_cons] at shorter
        omega
      · contradiction
  · contradiction

theorem readEscape_length_lt (accepted : readEscape text = some (units, rest)) :
    rest.length < text.length := by
  unfold readEscape at accepted
  split at accepted
  · obtain ⟨_, _, same⟩ := Option.map_eq_some_iff.1 accepted
    cases same
    simp only [List.length_cons]
    omega
  · have shorter := readCodePoint_length_le accepted
    simp only [List.length_cons]
    omega
  · obtain ⟨_, _, same⟩ := Option.map_eq_some_iff.1 accepted
    cases same
    simp only [List.length_cons]
    omega
  · cases accepted
    simp only [List.length_cons]
    omega
  · repeat' split at accepted
    all_goals first
      | contradiction
      | cases accepted
        simp
  · contradiction

theorem readCharacter_length_lt (accepted : readCharacter quote text = some (units, rest)) :
    rest.length < text.length := by
  unfold readCharacter at accepted
  split at accepted
  · have shorter := readEscape_length_lt accepted
    simp only [List.length_cons]
    omega
  · split at accepted
    · cases accepted
      simp only [List.length_cons]
      omega
    · contradiction
  · repeat' split at accepted
    all_goals first
      | contradiction
      | cases accepted
        simp
  · contradiction

/-! ## Literals -/

/-- What a reader of scripts finds where a string or a template begins. -/
inductive Token where
  /-- A whole string, or a whole template without substitutions. -/
  | literal (value : List Nat)
  /-- A template up to its first substitution. -/
  | templateHead (value : List Nat)
deriving DecidableEq, Repr

/-- The characters that open a substitution in a template. -/
def opening : List Char :=
  ['$', '\x7b']

/-- The part of a literal behind its opening quote, with the code units `read` so far. -/
def readBody (quote : Char) (read : List Nat) (text : List Char) : Option (Token × List Char) :=
  if text.head? = some quote then some (.literal read, text.tail)
  else if quote = '\x60' ∧ opening <+: text then some (.templateHead read, text.drop 2)
  else
    match _character : readCharacter quote text with
    | none => none
    | some (units, rest) => readBody quote (read ++ units) rest
termination_by text.length
decreasing_by exact readCharacter_length_lt ‹_›

/-- The quotes that begin a string or a template. -/
def quotes : List Char :=
  ['\'', '"', '\x60']

/-- The literal that a text begins with, and what stands behind it. -/
def readLiteral : List Char → Option (Token × List Char)
  | quote :: text => if quote ∈ quotes then readBody quote [] text else none
  | [] => none

/-- A text is one whole literal, without substitutions and with some value, whatever stands
behind it. -/
def IsLiteral (text : List Char) (value : List Nat) : Prop :=
  ∀ rest, readLiteral (text ++ rest) = some (.literal value, rest)

end NodeDecl.Script
