import NodeDecl.Json.Printer
import NodeDecl.Json.Scalar.Number
import NodeDecl.Proofs.Json.Spacing

/-!
# Integers are read back

An integer of at most 64 bits with its sign is written as its decimal digits, and they
are all taken up again: no prefix of them exceeds the bound of a significand, and what
stands behind them can be no part of a number.  Longer integers are not read back, but
different ones have different texts.
-/

namespace NodeDecl.Json

open Nat (ofDigitChars toDigits)

/-- The integers that are kept exactly when they are read. -/
def Fits (value : Int) : Prop :=
  -(greatestNegative : Int) ≤ value ∧ value < significandBound

/-- A delimiter is no part of a number. -/
theorem not_isDigit_of_delimiter {c : Char} (delimiter : isDelimiter c = true) :
    c.isDigit = false := by
  simp only [isDelimiter, isBlank, Bool.or_eq_true, decide_eq_true_eq] at delimiter
  rcases delimiter with (((((rfl | rfl) | rfl) | rfl) | rfl) | rfl) | rfl <;> rfl

/-! ## Texts -/

namespace Number

theorem text_natural (value : Nat) : (integer value).text = toDigits 10 value :=
  Nat.toList_repr

theorem text_negative (value : Nat) :
    (integer (.negSucc value)).text = '-' :: toDigits 10 (value + 1) := by
  rw [← Nat.toList_repr]
  exact String.toList_append

end Number

theorem isDigit_of_mem_toDigits {value : Nat} {c : Char} (member : c ∈ toDigits 10 value) :
    c.isDigit = true :=
  Nat.isDigit_of_mem_toDigits (by decide) (by decide) member

theorem toDigits_inj {value value' : Nat} (equal : toDigits 10 value = toDigits 10 value') :
    value = value' := by
  rw [← Nat.ofDigitChars_ten_toDigits (n := value), equal, Nat.ofDigitChars_ten_toDigits]

namespace Number

variable {value value' : Int}

theorem mem_text_integer {c : Char} (member : c ∈ (integer value).text) :
    c = '-' ∨ c.isDigit = true := by
  cases value with
  | ofNat value =>
      rw [Int.ofNat_eq_natCast, text_natural] at member
      exact .inr (isDigit_of_mem_toDigits member)
  | negSucc value =>
      rw [text_negative, List.mem_cons] at member
      exact member.imp_right isDigit_of_mem_toDigits

/-- Integers are known from their texts. -/
theorem text_integer_inj (equal : (integer value).text = (integer value').text) :
    value = value' := by
  have apart : ∀ natural negative : Nat,
      (integer natural).text ≠ (integer (.negSucc negative)).text := by
    intro natural negative same
    rw [text_natural, text_negative] at same
    have digit := isDigit_of_mem_toDigits (same ▸ List.mem_cons_self)
    contradiction
  cases value with
  | ofNat natural =>
      cases value' with
      | ofNat natural' =>
          rw [Int.ofNat_eq_natCast, Int.ofNat_eq_natCast, text_natural, text_natural] at equal
          rw [toDigits_inj equal]
      | negSucc negative' => exact absurd equal (apart natural negative')
  | negSucc negative =>
      cases value' with
      | ofNat natural' => exact absurd equal.symm (apart natural' negative)
      | negSucc negative' =>
          rw [text_negative, text_negative, List.cons.injEq] at equal
          rw [Nat.succ.inj (toDigits_inj equal.2)]

end Number

/-! ## Reading -/

variable {rest : List Char}

theorem countDigits_delimited (delimited : Delimited rest) : countDigits rest = 0 := by
  cases rest with
  | nil => rfl
  | cons c behind =>
      simp [countDigits, not_isDigit_of_delimiter (delimited c behind rfl)]

theorem dropDigits_delimited (delimited : Delimited rest) : dropDigits rest = rest := by
  cases rest with
  | nil => rfl
  | cons c behind =>
      simp [dropDigits, not_isDigit_of_delimiter (delimited c behind rfl)]

/-- More digits make no smaller number. -/
theorem le_ofDigitChars (digits : List Char) (start : Nat) :
    start ≤ ofDigitChars 10 digits start := by
  induction digits generalizing start with
  | nil => simp
  | cons c others ih =>
      rw [Nat.ofDigitChars_cons]
      exact Nat.le_trans (by omega) (ih _)

/-- Digits that denote a number below the bound are all taken. -/
theorem takeDigits_append {digits : List Char} (all : ∀ c ∈ digits, c.isDigit = true)
    {start : Nat} (bounded : ofDigitChars 10 digits start < significandBound)
    (delimited : Delimited rest) :
    takeDigits start (digits ++ rest) =
      (ofDigitChars 10 digits start, digits.length, rest) := by
  induction digits generalizing start with
  | nil =>
      cases rest with
      | nil => rfl
      | cons c behind =>
          have stops := not_isDigit_of_delimiter (delimited c behind rfl)
          simp [takeDigits, stops, Nat.ofDigitChars_nil]
  | cons c others ih =>
      rw [Nat.ofDigitChars_cons, Nat.mul_comm 10 start] at bounded ⊢
      have next : start * 10 + digitValue c < significandBound :=
        Nat.lt_of_le_of_lt (le_ofDigitChars others _) bounded
      have taken := ih (fun d member => all d (List.mem_cons_of_mem c member)) bounded
      rw [List.cons_append, takeDigits, if_pos ⟨all c List.mem_cons_self, next⟩, digitValue,
        taken, List.length_cons]

/-- The digits of a positive number do not begin with a zero. -/
theorem toDigits_positive {value : Nat} (positive : 0 < value) :
    ∃ c others, toDigits 10 value = c :: others ∧ c ≠ '0' := by
  induction value using Nat.strongRecOn with
  | ind value ih =>
      rw [Nat.toDigits_eq_if (by decide)]
      by_cases small : value < 10
      · rw [if_pos small]
        refine ⟨value.digitChar, [], rfl, ?_⟩
        have all : ∀ digit < 10, 0 < digit → Nat.digitChar digit ≠ '0' := by decide
        exact all value small positive
      · rw [if_neg small]
        rcases ih (value / 10) (Nat.div_lt_self positive (by decide)) (by omega) with
          ⟨c, others, equal, nonzero⟩
        exact ⟨c, others ++ [(value % 10).digitChar], by rw [equal]; rfl, nonzero⟩

/-- The digits of a number are read back. -/
theorem number_toDigits (negative : Bool) {value : Nat} (bounded : value < significandBound)
    (delimited : Delimited rest) :
    number negative (toDigits 10 value ++ rest) = afterInteger negative value 0 rest := by
  by_cases zero : value = 0
  · subst zero
    rw [Nat.toDigits_zero, List.singleton_append, number, if_pos rfl,
      countDigits_delimited delimited, if_pos rfl]
  · rcases toDigits_positive (Nat.pos_of_ne_zero zero) with ⟨c, others, equal, nonzero⟩
    have all : ∀ d ∈ c :: others, d.isDigit = true := by
      intro d member
      exact isDigit_of_mem_toDigits (equal ▸ member)
    have denotes : ofDigitChars 10 others (digitValue c) = value := by
      have whole : ofDigitChars 10 (c :: others) 0 = value := by
        rw [← equal, Nat.ofDigitChars_ten_toDigits]
      rwa [Nat.ofDigitChars_cons, Nat.mul_zero, Nat.zero_add] at whole
    have taken := takeDigits_append
      (fun d member => all d (List.mem_cons_of_mem c member)) (denotes ▸ bounded) delimited
    rw [equal, List.cons_append, number, if_neg nonzero, if_pos (all c List.mem_cons_self),
      taken, denotes]
    show afterInteger negative value (countDigits rest) (dropDigits rest) = _
    rw [countDigits_delimited delimited, dropDigits_delimited delimited]

/-- A delimiter ends a number, which is an integer then if all of its digits were taken. -/
theorem afterInteger_delimited (negative : Bool) (value extra : Nat)
    (delimited : Delimited rest) :
    afterInteger negative value extra rest =
      if extra = 0 ∧ negative = false then .ok (.integer value, rest)
      else if extra = 0 ∧ 0 < value ∧ value ≤ greatestNegative then
        .ok (.integer (-value), rest)
      else finishNumber negative value extra rest := by
  rw [afterInteger]
  · intro behind equal
    subst equal
    exact absurd (delimited '.' behind rfl) (by decide)
  · intro behind equal
    subst equal
    exact absurd (delimited 'e' behind rfl) (by decide)
  · intro behind equal
    subst equal
    exact absurd (delimited 'E' behind rfl) (by decide)

/-- An integer without a sign is read back. -/
theorem number_natural {value : Nat} (bounded : value < significandBound)
    (delimited : Delimited rest) :
    number false (toDigits 10 value ++ rest) = .ok (.integer value, rest) := by
  rw [number_toDigits false bounded delimited, afterInteger_delimited false value 0 delimited]
  rfl

/-- An integer behind a minus sign is read back. -/
theorem number_negative {value : Nat} (positive : 0 < value)
    (bounded : value ≤ greatestNegative) (delimited : Delimited rest) :
    number true (toDigits 10 value ++ rest) = .ok (.integer (-value), rest) := by
  have below : value < significandBound := Nat.lt_of_le_of_lt bounded (by decide)
  rw [number_toDigits true below delimited, afterInteger_delimited true value 0 delimited,
    if_neg (by decide), if_pos ⟨rfl, positive, bounded⟩]

end NodeDecl.Json
