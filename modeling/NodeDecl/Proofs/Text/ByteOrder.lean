import Mathlib.Data.List.Basic
import Mathlib.Tactic.SplitIfs

/-!
# The order of bytes

Names are compared character by character.  To compare their bytes in UTF-8 comes to the
same: of two different characters the smaller one has the smaller byte at the first place
where they differ, and there is such a place before the bytes of either end.
-/

namespace NodeDecl.Text

/-- The bytes of a name. -/
def bytes (name : String) : List UInt8 :=
  name.toUTF8.data.toList

/-- The bytes of a name are those of its characters. -/
theorem bytes_eq_flatMap (name : String) :
    bytes name = name.toList.flatMap String.utf8EncodeChar := by
  have encoded : name.toByteArray = name.toList.utf8Encode := by
    rw [← String.toByteArray_ofList, String.ofList_toList]
  rw [bytes, String.toUTF8_eq_toByteArray, encoded, List.utf8Encode,
    List.toList_data_toByteArray]

/-- Bytes are compared as the numbers that they stand for. -/
theorem ofNat_cons_lt_iff {a b : Nat} {back back' : List UInt8} (first : a < 256)
    (second : b < 256) :
    UInt8.ofNat a :: back < UInt8.ofNat b :: back' ↔ a < b ∨ a = b ∧ back < back' := by
  rw [List.cons_lt_cons_iff, UInt8.lt_iff_toNat_lt, ← UInt8.toNat_inj, UInt8.toNat_ofNat',
    UInt8.toNat_ofNat', Nat.mod_eq_of_lt first, Nat.mod_eq_of_lt second]

/-- The bytes of a smaller character are smaller, whatever follows. -/
theorem utf8EncodeChar_append_lt {c d : Char} (smaller : c < d) (back back' : List UInt8) :
    String.utf8EncodeChar c ++ back < String.utf8EncodeChar d ++ back' := by
  have codes : c.val.toNat < d.val.toNat := UInt32.lt_iff_toNat_lt.1 smaller
  have last : d.val.toNat < 0x110000 := by
    rcases d.valid with below | ⟨-, between⟩
    · exact Nat.lt_trans below (by decide)
    · exact between
  rw [String.utf8EncodeChar, String.utf8EncodeChar]
  generalize c.val.toNat = a, d.val.toNat = b at codes last ⊢
  -- The bytes behind the first one are digits to the base 64.
  have twice : ∀ code : Nat, code / 4096 = code / 64 / 64 := by omega
  have thrice : ∀ code : Nat, code / 262144 = code / 64 / 64 / 64 := by omega
  -- Characters with more bytes have a larger first byte; among those with equally many
  -- bytes it is a comparison digit by digit.
  split_ifs <;>
    simp (disch := omega) only [List.cons_append, List.nil_append, ofNat_cons_lt_iff, twice,
      thrice] <;>
    omega

/-- A common front does not matter. -/
theorem append_lt_append_left {back back' : List UInt8} (smaller : back < back') :
    ∀ front : List UInt8, front ++ back < front ++ back'
  | [] => smaller
  | _ :: front => List.cons_lt_cons_iff.2 (.inr ⟨rfl, append_lt_append_left smaller front⟩)

theorem flatMap_utf8EncodeChar_lt {left right : List Char} (smaller : left < right) :
    left.flatMap String.utf8EncodeChar < right.flatMap String.utf8EncodeChar := by
  induction left generalizing right with
  | nil =>
      cases right with
      | nil => exact absurd smaller (List.lt_irrefl [])
      | cons d others =>
          obtain ⟨byte, more, encoded⟩ :=
            List.exists_cons_of_ne_nil (String.utf8EncodeChar_ne_nil (c := d))
          rw [List.flatMap_nil, List.flatMap_cons, encoded]
          exact List.nil_lt_cons _ _
  | cons c rest ih =>
      cases right with
      | nil => exact absurd smaller (List.not_lt_nil _)
      | cons d others =>
          rw [List.flatMap_cons, List.flatMap_cons]
          rcases List.cons_lt_cons_iff.1 smaller with less | ⟨rfl, behind⟩
          · exact utf8EncodeChar_append_lt less _ _
          · exact append_lt_append_left (ih behind) _

/-- The order of names is the order of their bytes. -/
theorem lt_iff_bytes_lt {left right : String} : left < right ↔ bytes left < bytes right := by
  have forward : ∀ {a b : String}, a < b → bytes a < bytes b := by
    intro a b smaller
    rw [bytes_eq_flatMap, bytes_eq_flatMap]
    exact flatMap_utf8EncodeChar_lt smaller
  constructor
  · exact forward
  · intro smaller
    apply String.not_le.1
    intro notLarger
    by_cases equal : left = right
    · exact List.lt_irrefl _ (equal ▸ smaller)
    · have larger : right < left :=
        String.not_le.1 fun le => equal (String.le_antisymm le notLarger)
      exact List.lt_asymm smaller (forward larger)

end NodeDecl.Text
