import NodeDecl.Proofs.Json.Skipping

/-!
# Numbers in range

A number text is taken as a whole wherever a delimiter stands behind it, and what it denotes
depends on it alone: it is the same number everywhere, or it is out of range everywhere.
-/

namespace NodeDecl.Json

open Skip (NoDigit countDigits_append countDigits_eq_zero dropDigits_append noDigit_exponent
  noDigit_fraction noDigit_of_delimited takeSign_append)

/-! ## Digits that are taken -/

/-- Of some digits those are taken that the significand allows, and the others are left. -/
theorem takeDigits_cut {digits : List Char} (all : ∀ c ∈ digits, c.isDigit = true)
    (start : Nat) :
    ∃ total count left, (∀ c ∈ left, c.isDigit = true) ∧
      ∀ rest, NoDigit rest →
        takeDigits start (digits ++ rest) = (total, count, left ++ rest) := by
  induction digits generalizing start with
  | nil =>
      refine ⟨start, 0, [], by simp, ?_⟩
      intro rest stops
      cases rest with
      | nil => rfl
      | cons c behind => simp [takeDigits, stops c behind rfl]
  | cons c others ih =>
      obtain ⟨first, otherDigits⟩ := List.forall_mem_cons.1 all
      by_cases small : start * 10 + digitValue c < significandBound
      · obtain ⟨total, count, left, leftDigits, taken⟩ := ih otherDigits _
        refine ⟨total, count + 1, left, leftDigits, ?_⟩
        intro rest stops
        rw [List.cons_append, takeDigits, if_pos ⟨first, small⟩, taken rest stops]
      · refine ⟨start, 0, c :: others, all, ?_⟩
        intro rest _
        rw [List.cons_append, takeDigits, if_neg fun both => small both.2]

/-- The digits of an exponent are all taken, or those behind the one that makes it too large
are left. -/
theorem takeExponent_cut {digits : List Char} (all : ∀ c ∈ digits, c.isDigit = true)
    (start : Nat) :
    (∃ exponent, ∀ rest, NoDigit rest →
        takeExponent start (digits ++ rest) = (some exponent, rest)) ∨
      ∃ left, (∀ c ∈ left, c.isDigit = true) ∧
        ∀ rest, takeExponent start (digits ++ rest) = (none, left ++ rest) := by
  induction digits generalizing start with
  | nil =>
      refine .inl ⟨start, ?_⟩
      intro rest stops
      cases rest with
      | nil => rfl
      | cons c behind => simp [takeExponent, stops c behind rfl]
  | cons c others ih =>
      obtain ⟨first, otherDigits⟩ := List.forall_mem_cons.1 all
      simp only [List.cons_append, takeExponent, if_pos first]
      by_cases small : start * 10 + digitValue c ≤ greatestExponentText
      · simp only [if_pos small]
        exact ih otherDigits _
      · simp only [if_neg small]
        exact .inr ⟨others, otherDigits, fun _ => rfl⟩

/-! ## Parts of a number -/

/-- Reading what stands in front of a delimiter gives a number that does not depend on what
follows, or it is always out of range. -/
inductive Determines (read : List Char → Outcome Number) : Prop
  | value (value : Number)
      (accepts : ∀ rest, Delimited rest → read rest = .ok (value, rest)) : Determines read
  | outOfRange
      (refuses : ∀ rest, Delimited rest →
        ∃ unread, read rest = .error (.before .numberOutOfRange unread)) : Determines read

theorem Determines.of_eq {read read' : List Char → Outcome Number} (determines : Determines read)
    (same : ∀ rest, Delimited rest → read' rest = read rest) : Determines read' := by
  cases determines with
  | value value accepts =>
      apply Determines.value value
      intro rest delimited
      rw [same rest delimited, accepts rest delimited]
  | outOfRange refuses =>
      apply Determines.outOfRange
      intro rest delimited
      rw [same rest delimited]
      exact refuses rest delimited

section

variable (negative : Bool) (significand : Nat)

theorem finishNumber_determines (power : Int) :
    Determines (finishNumber negative significand power) := by
  cases double : Double.ofDecimal? negative significand power with
  | some value =>
      apply Determines.value (.double value)
      intro rest _
      rw [finishNumber, double]
  | none =>
      apply Determines.outOfRange
      intro rest _
      exact ⟨rest, by rw [finishNumber, double]⟩

theorem exponentPart_determines (power : Int) {sign text : List Char}
    (signed : sign = [] ∨ sign = ['+'] ∨ sign = ['-']) (isDigits : DigitsText text) :
    Determines fun rest => exponentPart negative significand power (sign ++ (text ++ rest)) := by
  have signTaken := takeSign_append signed isDigits
  obtain ⟨nonempty, all⟩ := isDigits
  obtain ⟨c, others, rfl⟩ := List.exists_cons_of_ne_nil nonempty
  obtain ⟨first, otherDigits⟩ := List.forall_mem_cons.1 all
  simp only [List.cons_append] at signTaken
  obtain ⟨exponent, taken⟩ | ⟨left, leftDigits, taken⟩ :=
    takeExponent_cut otherDigits (digitValue c)
  · apply (finishNumber_determines negative significand
      (if decide (sign = ['-']) then power - exponent else power + exponent)).of_eq
    intro rest delimited
    simp only [exponentPart, signTaken, List.cons_append, if_pos first,
      taken rest (noDigit_of_delimited delimited)]
  · by_cases raises : significand ≠ 0 ∧ decide (sign = ['-']) = false
    · apply Determines.outOfRange
      intro rest _
      refine ⟨left ++ rest, ?_⟩
      simp only [exponentPart, signTaken, List.cons_append, if_pos first, taken rest,
        if_pos raises]
    · apply Determines.value (.double (.zero negative))
      intro rest delimited
      simp only [exponentPart, signTaken, List.cons_append, if_pos first, taken rest,
        if_neg raises, dropDigits_append leftDigits (noDigit_of_delimited delimited)]

theorem afterFraction_determines (power : Int) {scale : List Char}
    (scaled : ExponentText scale) :
    Determines fun rest => afterFraction negative significand power (scale ++ rest) := by
  cases scaled with
  | none =>
      apply (finishNumber_determines negative significand power).of_eq
      intro rest delimited
      rw [List.nil_append, afterFraction.eq_def]
      split
      · exact absurd (delimited _ _ rfl) (by decide)
      · exact absurd (delimited _ _ rfl) (by decide)
      · rfl
  | some isLetter signed isDigits =>
      apply (exponentPart_determines negative significand power signed isDigits).of_eq
      intro rest _
      rw [List.cons_append, List.append_assoc]
      obtain rfl | rfl := isLetter
      · rfl
      · rfl

theorem fractionPart_determines (power : Int) {text scale : List Char}
    (isDigits : DigitsText text) (scaled : ExponentText scale) :
    Determines fun rest =>
      fractionPart negative significand power (text ++ (scale ++ rest)) := by
  obtain ⟨nonempty, all⟩ := isDigits
  obtain ⟨total, count, left, leftDigits, taken⟩ := takeDigits_cut all significand
  apply (afterFraction_determines negative total (power - count) scaled).of_eq
  intro rest delimited
  have stops := noDigit_exponent scaled delimited
  have counted : countDigits (text ++ (scale ++ rest)) ≠ 0 := by
    rwa [countDigits_append all stops, ne_eq, List.length_eq_zero_iff]
  simp only [fractionPart, taken _ stops, if_neg counted, dropDigits_append leftDigits stops]

theorem afterInteger_determines (extra : Nat) {text scale : List Char}
    (fractional : FractionText text) (scaled : ExponentText scale) :
    Determines fun rest =>
      afterInteger negative significand extra (text ++ (scale ++ rest)) := by
  cases fractional with
  | some isDigits => exact fractionPart_determines negative significand extra isDigits scaled
  | none =>
      cases scaled with
      | some isLetter signed isDigits =>
          apply (exponentPart_determines negative significand extra signed isDigits).of_eq
          intro rest _
          rw [List.nil_append, List.cons_append, List.append_assoc]
          obtain rfl | rfl := isLetter
          · rfl
          · rfl
      | none =>
          simp only [List.nil_append]
          by_cases natural : extra = 0 ∧ negative = false
          · apply Determines.value (.integer significand)
            intro rest delimited
            rw [afterInteger_delimited negative significand extra delimited, if_pos natural]
          · by_cases below : extra = 0 ∧ 0 < significand ∧ significand ≤ greatestNegative
            · apply Determines.value (.integer (-significand))
              intro rest delimited
              rw [afterInteger_delimited negative significand extra delimited, if_neg natural,
                if_pos below]
            · apply (finishNumber_determines negative significand extra).of_eq
              intro rest delimited
              rw [afterInteger_delimited negative significand extra delimited, if_neg natural,
                if_neg below]

end

theorem number_determines (negative : Bool) {text fraction scale : List Char}
    (integral : IntegerText text) (fractional : FractionText fraction)
    (scaled : ExponentText scale) :
    Determines fun rest => number negative (text ++ (fraction ++ (scale ++ rest))) := by
  cases integral with
  | zero =>
      apply (afterInteger_determines negative 0 0 fractional scaled).of_eq
      intro rest delimited
      have stops := noDigit_fraction fractional scaled delimited
      rw [List.singleton_append, number, if_pos rfl, if_pos (countDigits_eq_zero stops)]
  | @positive first others digits leading =>
      obtain ⟨firstDigit, otherDigits⟩ := List.forall_mem_cons.1 digits
      obtain ⟨total, count, left, leftDigits, taken⟩ :=
        takeDigits_cut otherDigits (digitValue first)
      apply (afterInteger_determines negative total left.length fractional scaled).of_eq
      intro rest delimited
      have stops := noDigit_fraction fractional scaled delimited
      rw [List.cons_append, number, if_neg leading, if_pos firstDigit, taken _ stops]
      simp only [countDigits_append leftDigits stops, dropDigits_append leftDigits stops]

/-! ## Whole number texts -/

variable {text : List Char}

/-- A number text denotes the same number wherever it stands, or it is out of range
wherever it stands. -/
theorem NumberText.denotes_or_outOfRange (spelled : NumberText text) :
    (∃ value, Denotes text (.number value)) ∨
      ∀ rest, Delimited rest →
        ∃ unread, scalar? (text ++ rest) = some (.error (.before .numberOutOfRange unread)) := by
  obtain ⟨opens, -⟩ := Skip.scalar_number spelled
  obtain ⟨signed, integral, fractional, scaled⟩ := spelled
  rename_i sign integer fraction scale
  -- Behind its sign a number begins with a digit, so it is read as a number.
  obtain ⟨negative, scalar⟩ : ∃ negative, ∀ rest,
      scalar? (sign ++ (integer ++ (fraction ++ scale)) ++ rest) =
        some (Outcome.map .number
          (number negative (integer ++ (fraction ++ (scale ++ rest))))) := by
    obtain rfl | rfl := signed
    · refine ⟨false, ?_⟩
      intro rest
      obtain ⟨c, others, rfl, digit⟩ := integral.front
      simp only [List.nil_append, List.append_assoc, List.cons_append]
      exact scalar?_digit digit _
    · refine ⟨true, ?_⟩
      intro rest
      simp only [List.append_assoc, List.cons_append, List.nil_append]
      rfl
  cases number_determines negative integral fractional scaled with
  | value value accepts =>
      refine .inl ⟨value, opens, ?_⟩
      intro rest delimited
      rw [scalar, accepts rest delimited]
      rfl
  | outOfRange refuses =>
      right
      intro rest delimited
      obtain ⟨unread, failed⟩ := refuses rest delimited
      refine ⟨unread, ?_⟩
      rw [scalar, failed]
      rfl

/-- A number text that is read when it stands alone is read as the same number wherever it
stands. -/
theorem NumberText.denotes {value : Value} (spelled : NumberText text)
    (reads : scalar? text = some (.ok (value, []))) : Denotes text value := by
  obtain ⟨number, denotes⟩ | refused := spelled.denotes_or_outOfRange
  · have alone := denotes.scalar [] delimited_nil
    rw [List.append_nil, reads] at alone
    cases alone
    exact denotes
  · obtain ⟨unread, failed⟩ := refused [] delimited_nil
    rw [List.append_nil, reads] at failed
    cases failed

end NodeDecl.Json
