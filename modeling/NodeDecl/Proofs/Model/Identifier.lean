import Mathlib.Computability.Language
import NodeDecl.Model.Build

/-!
# The language of identifiers

Identifiers as a regular language: a letter, an underscore or a dollar sign, and
then any number of these and of digits.  The check that a build makes accepts
exactly the words of this language.
-/

namespace NodeDecl

open Computability

/-- The words of one character between two others. -/
def characterRange (first last : Char) : Language Char :=
  {word | ∃ c, word = [c] ∧ first.toNat ≤ c.toNat ∧ c.toNat ≤ last.toNat}

/-- What an identifier may begin with. -/
def identifierStarts : Language Char :=
  characterRange 'A' 'Z' + characterRange 'a' 'z' + characterRange '_' '_' +
    characterRange '$' '$'

/-- What an identifier may go on with. -/
def identifierRests : Language Char :=
  identifierStarts + characterRange '0' '9'

/-- All identifiers. -/
def identifiers : Language Char :=
  identifierStarts * identifierRests∗

theorem mem_characterRange {first last : Char} {word : List Char} :
    word ∈ characterRange first last ↔
      ∃ c, word = [c] ∧ first.toNat ≤ c.toNat ∧ c.toNat ≤ last.toNat :=
  Iff.rfl

/-- The letters, the underscore and the dollar sign by their code points. -/
theorem isIdentifierStart_iff {c : Char} :
    isIdentifierStart c = true ↔
      ('A'.toNat ≤ c.toNat ∧ c.toNat ≤ 'Z'.toNat) ∨ ('a'.toNat ≤ c.toNat ∧ c.toNat ≤ 'z'.toNat) ∨
        c = '_' ∨ c = '$' := by
  have upper : c.isUpper = true ↔ 'A'.toNat ≤ c.toNat ∧ c.toNat ≤ 'Z'.toNat := by
    change decide ('A'.val ≤ c.val ∧ c.val ≤ 'Z'.val) = true ↔ _
    rw [decide_eq_true_eq, UInt32.le_iff_toNat_le, UInt32.le_iff_toNat_le]
    rfl
  have lower : c.isLower = true ↔ 'a'.toNat ≤ c.toNat ∧ c.toNat ≤ 'z'.toNat := by
    change (decide ('a'.val ≤ c.val) && decide (c.val ≤ 'z'.val)) = true ↔ _
    rw [Bool.and_eq_true, decide_eq_true_eq, decide_eq_true_eq, UInt32.le_iff_toNat_le,
      UInt32.le_iff_toNat_le]
    rfl
  change ((c.isUpper || c.isLower) || decide (c = '_') || decide (c = '$')) = true ↔ _
  simp only [Bool.or_eq_true, upper, lower, decide_eq_true_eq, or_assoc]

/-- A range of one character holds that character alone. -/
theorem between_self_iff {c d : Char} : c.toNat ≤ d.toNat ∧ d.toNat ≤ c.toNat ↔ d = c := by
  constructor
  · intro ⟨below, above⟩
    exact Char.toNat_inj.1 (Nat.le_antisymm above below)
  · intro equal
    subst equal
    exact ⟨Nat.le_refl _, Nat.le_refl _⟩

theorem mem_identifierStarts {word : List Char} :
    word ∈ identifierStarts ↔ ∃ c, word = [c] ∧ isIdentifierStart c = true := by
  simp only [identifierStarts, Language.mem_add, mem_characterRange, isIdentifierStart_iff,
    between_self_iff, ← exists_or, ← and_or_left, or_assoc]

theorem mem_identifierRests {word : List Char} :
    word ∈ identifierRests ↔ ∃ c, word = [c] ∧ isIdentifierRest c = true := by
  simp only [identifierRests, Language.mem_add, mem_identifierStarts, mem_characterRange,
    isIdentifierRest, Bool.or_eq_true, Char.isDigit_iff_toNat, ← exists_or, ← and_or_left]

/-- Any number of characters that an identifier may go on with. -/
theorem mem_identifierRests_star {word : List Char} :
    word ∈ identifierRests∗ ↔ ∀ c ∈ word, isIdentifierRest c = true := by
  rw [Language.mem_kstar]
  constructor
  · intro given c member
    rcases given with ⟨pieces, rfl, each⟩
    rcases List.mem_flatten.1 member with ⟨piece, inPieces, inPiece⟩
    rcases mem_identifierRests.1 (each piece inPieces) with ⟨d, rfl, allowed⟩
    exact List.mem_singleton.1 inPiece ▸ allowed
  · intro allowed
    refine ⟨word.map fun c => [c], ?_, ?_⟩
    · exact (List.flatMap_singleton' word).symm
    · intro piece member
      rcases List.mem_map.1 member with ⟨c, inWord, rfl⟩
      exact mem_identifierRests.2 ⟨c, rfl, allowed c inWord⟩

/-- The check of a build accepts exactly the identifiers. -/
theorem isIdentifier_iff {name : String} :
    isIdentifier name = true ↔ name.toList ∈ identifiers := by
  rw [isIdentifier, identifiers, Language.mem_mul]
  constructor
  · intro accepted
    split at accepted
    · contradiction
    · next c rest front =>
      rw [Bool.and_eq_true, List.all_eq_true] at accepted
      exact ⟨[c], mem_identifierStarts.2 ⟨c, rfl, accepted.1⟩, rest,
        mem_identifierRests_star.2 accepted.2, front.symm⟩
  · intro given
    rcases given with ⟨start, inStarts, rest, inRests, equal⟩
    rcases mem_identifierStarts.1 inStarts with ⟨c, rfl, startAllowed⟩
    rw [← equal]
    simpa [startAllowed] using mem_identifierRests_star.1 inRests

/-! ## Characters of identifiers -/

/-- The characters of an identifier can all stand inside of one. -/
theorem isIdentifierRest_of_mem {name : String} (identifier : isIdentifier name = true) :
    ∀ c ∈ name.toList, isIdentifierRest c = true := by
  rw [isIdentifier] at identifier
  cases chars : name.toList with
  | nil => simp
  | cons first rest =>
      simp only [chars, Bool.and_eq_true, List.all_eq_true] at identifier
      rw [List.forall_mem_cons]
      refine ⟨?_, identifier.2⟩
      rw [isIdentifierRest, identifier.1, Bool.true_or]

/-- Identifiers one behind the other are an identifier. -/
theorem isIdentifier_append {front back : String} (first : isIdentifier front = true)
    (second : isIdentifier back = true) : isIdentifier (front ++ back) = true := by
  have inside := isIdentifierRest_of_mem second
  rw [isIdentifier] at first
  rw [isIdentifier, String.toList_append]
  cases chars : front.toList with
  | nil => simp [chars] at first
  | cons c rest =>
      simp only [chars, Bool.and_eq_true, List.all_eq_true] at first
      simp only [List.cons_append, Bool.and_eq_true, List.all_eq_true, List.forall_mem_append]
      exact ⟨first.1, first.2, inside⟩

end NodeDecl
