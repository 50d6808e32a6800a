import NodeDecl.Proofs.Text.LowerCase
import NodeDecl.Proofs.Text.ScriptLiterals

/-!
# Names that a script computes

The expressions by which a script makes a name from the type of a node: it takes strings
apart at their first code unit, puts units in lower case and joins strings.  A character
beyond U+FFFF is two units, neither of which has a lower case, so on such a name the script
and `Text.lowerFirst` may part.  On all other names they agree.
-/

namespace NodeDecl.Script

/-- The lower case of a string of one code unit.  A surrogate is left as it is.  A capital
sigma is not at the end of a word here, as no letter stands in front of it. -/
def lowerCaseUnit (unit : Nat) : List Nat :=
  if 0xD800 ≤ unit ∧ unit < 0xE000 then [unit]
  else codeUnitsOf (Text.lowerCase (Char.ofNat unit))

/-- A string that is taken from the type of a node. -/
inductive Operand where
  | nodeType
  /-- The first code unit in lower case. -/
  | firstLowered (string : Operand)
  /-- All code units but the first. -/
  | behindFirst (string : Operand)

namespace Operand

/-- The text of an operand. -/
def text : Operand → String
  | .nodeType => "node.type"
  | .firstLowered string => string.text ++ "[0].toLowerCase()"
  | .behindFirst string => string.text ++ ".substr(1)"

/-- The value of an operand for a node of some type.  An empty string has no first code
unit that could be put in lower case. -/
def value (type : List Nat) : Operand → Option (List Nat)
  | .nodeType => some type
  | .firstLowered string => (string.value type).bind fun units => units.head?.map lowerCaseUnit
  | .behindFirst string => (string.value type).map (·.drop 1)

end Operand

/-- The text of a sum of operands. -/
def sumText (operands : List Operand) : String :=
  " + ".intercalate (operands.map (·.text))

/-- The value of a sum of operands: that of each, one behind the other. -/
def sumValue (type : List Nat) (operands : List Operand) : Option (List Nat) :=
  (operands.mapM (Operand.value type)).map List.flatten

/-- The name of the method that a dispatcher calls. -/
def methodName : List Operand :=
  [.firstLowered .nodeType, .behindFirst .nodeType]

theorem codeUnitsOf_append (front back : List Char) :
    codeUnitsOf (front ++ back) = codeUnitsOf front ++ codeUnitsOf back :=
  List.flatMap_append

/-- One character below U+10000 is one code unit, with the lower case of the character. -/
theorem lowerCaseUnit_toNat (c : Char) :
    lowerCaseUnit c.toNat = codeUnitsOf (Text.lowerCase c) := by
  have valid : ¬(0xD800 ≤ c.toNat ∧ c.toNat < 0xE000) := by
    intro surrogate
    rcases c.valid with below | ⟨above, -⟩
    · exact absurd (Nat.lt_of_lt_of_le below surrogate.1) (Nat.lt_irrefl _)
    · exact absurd (Nat.lt_of_lt_of_le surrogate.2 above) (Nat.lt_irrefl _)
  rw [lowerCaseUnit, if_neg valid, Char.ofNat_toNat]

/-- The method that a script finds for a type is named after the type with its first
character in lower case, if that character is one code unit. -/
theorem sumValue_methodName {type : String} {c : Char} {rest : List Char}
    (chars : type.toList = c :: rest) (single : c.toNat < 0x10000) :
    sumValue (codeUnitsOf type.toList) methodName =
      some (codeUnitsOf (Text.lowerFirst type).toList) := by
  have units : codeUnitsOf type.toList = c.toNat :: codeUnitsOf rest := by
    rw [chars, codeUnitsOf, List.flatMap_cons, codeUnits, if_pos single]
    rfl
  have lower : (Text.lowerFirst type).toList = Text.lowerCase c ++ rest := by
    simp only [Text.lowerFirst, chars, String.toList_ofList]
  rw [units, lower, codeUnitsOf_append, ← lowerCaseUnit_toNat]
  simp [sumValue, methodName, Operand.value]

/-- Of the capital U+10400 a script sees the first half only, which has no lower case. -/
example :
    let type := String.singleton (Char.ofNat 0x10400)
    sumValue (codeUnitsOf type.toList) methodName = some [0xD801, 0xDC00] ∧
      codeUnitsOf (Text.lowerFirst type).toList = [0xD801, 0xDC28] := by
  decide +kernel

end NodeDecl.Script
