import NodeDecl.Proofs.Json.Values

/-!
# How far scalars reach

Whatever is accepted as a scalar is one by the grammar: a reader that takes a string has
taken its characters and the quote behind them, and one that takes a number has taken the
digits, the fraction and the exponent of one.  Reading a number as a double or as an integer
takes exactly the text that skipping it takes.
-/

namespace NodeDecl.Json

variable {whole rest : List Char}

/-! ## Strings -/

theorem fourHex_eq_ok {code : Nat} (accepted : fourHex whole = .ok (code, rest)) :
    ∃ a b c d, whole = a :: b :: c :: d :: rest ∧ fourHexValue? a b c d = some code := by
  rw [fourHex.eq_def] at accepted
  split at accepted
  · next a b c d behind =>
    split at accepted
    · next digits =>
      cases accepted
      exact ⟨a, b, c, d, rfl, digits⟩
    · cases accepted
  · cases accepted

theorem trailingSurrogate_eq_ok {leading : Nat} {c : Char}
    (accepted : trailingSurrogate leading whole = .ok (c, rest)) :
    ∃ e f g h trailing, whole = '\\' :: 'u' :: e :: f :: g :: h :: rest ∧
      fourHexValue? e f g h = some trailing ∧ isTrailingSurrogate trailing = true ∧
      c = Char.ofNat (pairedCode leading trailing) := by
  rw [trailingSurrogate.eq_def] at accepted
  split at accepted
  · cases accepted
  · cases accepted
  · split at accepted
    · cases accepted
    · next trailing behind hex =>
      split at accepted
      · next trails =>
        rcases Prod.mk.inj (Except.ok.inj accepted) with ⟨same, rfl⟩
        rcases fourHex_eq_ok hex with ⟨e, f, g, h, rfl, digits⟩
        exact ⟨e, f, g, h, trailing, rfl, digits, trails, same.symm⟩
      · cases accepted
  · cases accepted
  · cases accepted

/-- An escape is one of the ways to write its character. -/
theorem escapeSequence_takes {c : Char} (accepted : escapeSequence whole = .ok (c, rest)) :
    ∃ text, CharText c ('\\' :: text) ∧ whole = text ++ rest := by
  rw [escapeSequence.eq_def] at accepted
  split at accepted
  · cases accepted
  · next behind =>
    rw [unicodeEscape] at accepted
    split at accepted
    · cases accepted
    · next unit rest hex =>
      rcases fourHex_eq_ok hex with ⟨a, b, c, d, rfl, digits⟩
      split at accepted
      · cases accepted
      · next notTrailing =>
        rw [Bool.not_eq_true] at notTrailing
        split at accepted
        · next leads =>
          rcases trailingSurrogate_eq_ok accepted with
            ⟨e, f, g, h, trailing, rfl, second, trails, same⟩
          rw [same]
          exact ⟨_, .pair digits second leads trails, rfl⟩
        · next notLeading =>
          rw [Bool.not_eq_true] at notLeading
          rcases Prod.mk.inj (Except.ok.inj accepted) with ⟨same, rfl⟩
          rw [← same]
          exact ⟨_, .unit digits notLeading notTrailing, rfl⟩
  · next letter behind _ =>
    split at accepted
    · next stands =>
      cases accepted
      exact ⟨_, .short stands, rfl⟩
    · cases accepted

/-- One character of a string, or the quote that closes it. -/
theorem stringPiece_takes {piece : Option Char} (accepted : stringPiece whole = .ok (piece, rest)) :
    match piece with
    | none => whole = '"' :: rest
    | some c => ∃ text, CharText c text ∧ whole = text ++ rest := by
  rw [stringPiece.eq_def] at accepted
  split at accepted
  · cases accepted
  · cases accepted
    rfl
  · next behind =>
    rcases Outcome.map_eq_ok accepted with ⟨c, inner, rfl⟩
    rcases escapeSequence_takes inner with ⟨text, spelled, rfl⟩
    exact ⟨_, spelled, rfl⟩
  · next c behind notQuote notBackslash _ =>
    split at accepted
    · cases accepted
    · next printable =>
      cases accepted
      exact ⟨[c], .plain (Nat.not_lt.1 printable) notQuote notBackslash, rfl⟩

/-- A string that is read behind its opening quote is written there. -/
theorem stringBody_takes {string : String} (accepted : stringBody.run whole = .ok (string, rest)) :
    ∃ text, CharsText string.toList text ∧ whole = text ++ rest := by
  -- The loop carries the characters that it has read, in reverse.
  have general : ∀ read whole, Reader.iterate stringStep read whole = .ok (string, rest) →
      ∃ chars text, CharsText chars text ∧ whole = text ++ rest ∧
        string = String.ofList (read.reverse ++ chars) := by
    intro read whole accepted
    fun_induction Reader.iterate stringStep read whole with
    | case1 => cases accepted
    | case2 read whole last behind turn =>
        cases accepted
        rcases Outcome.map_eq_ok turn with ⟨piece, inner, equal⟩
        cases piece with
        | none =>
            cases equal
            exact ⟨[], ['"'], .close, stringPiece_takes inner, by rw [List.append_nil]⟩
        | some c => cases equal
    | case3 read whole next behind turn shorter ih =>
        rcases Outcome.map_eq_ok turn with ⟨piece, inner, equal⟩
        cases piece with
        | none => cases equal
        | some c =>
            cases equal
            rcases ih accepted with ⟨chars, text, spelled, rfl, same⟩
            rcases stringPiece_takes inner with ⟨front, char, rfl⟩
            refine ⟨c :: chars, _, .more char spelled, (List.append_assoc ..).symm, ?_⟩
            rw [same, List.reverse_cons, List.append_assoc, List.singleton_append]
  rcases general [] whole accepted with ⟨chars, text, spelled, same, equal⟩
  rw [List.reverse_nil, List.nil_append] at equal
  subst equal
  rw [String.toList_ofList]
  exact ⟨text, spelled, same⟩

namespace Skip

theorem escape_takes (accepted : escape whole = .ok ((), rest)) :
    (∃ letter c, shortEscape? letter = some c ∧ whole = letter :: rest) ∨
      ∃ a b c d code, fourHexValue? a b c d = some code ∧
        whole = 'u' :: a :: b :: c :: d :: rest := by
  rw [escape.eq_def] at accepted
  split at accepted
  · cases accepted
  · rcases Outcome.map_eq_ok accepted with ⟨code, inner, -⟩
    rcases fourHex_eq_ok inner with ⟨a, b, c, d, rfl, digits⟩
    exact .inr ⟨a, b, c, d, code, digits, rfl⟩
  · next letter behind _ =>
    split at accepted
    · next c stands =>
      cases accepted
      exact .inl ⟨letter, c, stands, rfl⟩
    · cases accepted

/-- One character more of a string that is skipped, or the quote that closes it. -/
theorem stringPiece_takes {more : Bool} (accepted : stringPiece whole = .ok (more, rest)) :
    match more with
    | false => whole = '"' :: rest
    | true => ∀ text, LooseText text →
        ∃ front, whole = front ++ rest ∧ LooseText (front ++ text) := by
  rw [stringPiece.eq_def] at accepted
  split at accepted
  · cases accepted
  · cases accepted
    rfl
  · rcases Outcome.map_eq_ok accepted with ⟨_, inner, rfl⟩
    intro text loose
    rcases escape_takes inner with ⟨letter, c, stands, rfl⟩ | ⟨a, b, c, d, code, digits, rfl⟩
    · exact ⟨['\\', letter], rfl, .short stands loose⟩
    · exact ⟨['\\', 'u', a, b, c, d], rfl, .unit digits loose⟩
  · next c behind notQuote notBackslash _ =>
    split at accepted
    · cases accepted
    · next printable =>
      cases accepted
      intro text loose
      exact ⟨[c], rfl, .plain (Nat.not_lt.1 printable) notQuote notBackslash loose⟩

/-- A string that is skipped behind its opening quote is one. -/
theorem stringBody_takes (accepted : stringBody.run whole = .ok ((), rest)) :
    ∃ text, LooseText text ∧ whole = text ++ rest := by
  have general : ∀ state whole, Reader.iterate stringStep state whole = .ok ((), rest) →
      ∃ text, LooseText text ∧ whole = text ++ rest := by
    intro state whole accepted
    fun_induction Reader.iterate stringStep state whole with
    | case1 => cases accepted
    | case2 state whole last behind turn =>
        cases accepted
        rcases Outcome.map_eq_ok turn with ⟨more, inner, equal⟩
        cases more with
        | true => cases equal
        | false => exact ⟨['"'], .close, stringPiece_takes inner⟩
    | case3 state whole next behind turn shorter ih =>
        rcases Outcome.map_eq_ok turn with ⟨more, inner, equal⟩
        cases more with
        | false => cases equal
        | true =>
            rcases ih accepted with ⟨text, loose, rfl⟩
            rcases stringPiece_takes inner text loose with ⟨front, rfl, whole⟩
            exact ⟨_, whole, (List.append_assoc ..).symm⟩
  exact general () whole accepted

/-! ## Numbers that are skipped -/

/-- The digits at the front of a text. -/
theorem exists_digits (text : List Char) :
    ∃ front, (∀ c ∈ front, c.isDigit = true) ∧ text = front ++ dropDigits text :=
  ⟨text.takeWhile Char.isDigit, List.all_eq_true.1 List.all_takeWhile,
    (List.takeWhile_append_dropWhile ..).symm⟩

theorem digits_takes (accepted : digits whole = .ok ((), rest)) :
    ∃ text, DigitsText text ∧ whole = text ++ rest := by
  rw [digits.eq_def] at accepted
  split at accepted
  · cases accepted
  · next c behind =>
    split at accepted
    · next digit =>
      cases accepted
      rcases exists_digits behind with ⟨front, digits, cut⟩
      exact ⟨c :: front, ⟨by simp, List.forall_mem_cons.2 ⟨digit, digits⟩⟩, congrArg _ cut⟩
    · cases accepted

theorem takeSign_takes (text : List Char) :
    ∃ sign, (sign = [] ∨ sign = ['+'] ∨ sign = ['-']) ∧ text = sign ++ (takeSign text).2 := by
  rw [takeSign.eq_def]
  split
  · exact ⟨['+'], .inr (.inl rfl), rfl⟩
  · exact ⟨['-'], .inr (.inr rfl), rfl⟩
  · exact ⟨[], .inl rfl, rfl⟩

theorem exponent_takes (accepted : exponent whole = .ok ((), rest)) :
    ∃ text, ExponentText text ∧ whole = text ++ rest := by
  have behindLetter : ∀ {letter : Char} {behind : List Char}, letter = 'e' ∨ letter = 'E' →
      digits (takeSign behind).2 = .ok ((), rest) →
      ∃ text, ExponentText text ∧ letter :: behind = text ++ rest := by
    intro letter behind isLetter accepted
    rcases digits_takes accepted with ⟨text, isDigits, digits⟩
    rcases takeSign_takes behind with ⟨sign, signed, cut⟩
    refine ⟨letter :: (sign ++ text), .some isLetter signed isDigits, ?_⟩
    rw [cut, digits, List.cons_append, List.append_assoc]
  rw [exponent.eq_def] at accepted
  split at accepted
  · exact behindLetter (.inl rfl) accepted
  · exact behindLetter (.inr rfl) accepted
  · cases accepted
    exact ⟨[], .none, rfl⟩

theorem fraction_takes (accepted : fraction whole = .ok ((), rest)) :
    ∃ text scale, FractionText text ∧ ExponentText scale ∧ whole = text ++ (scale ++ rest) := by
  rw [fraction.eq_def] at accepted
  split at accepted
  · split at accepted
    · next inner =>
      rcases digits_takes inner with ⟨text, isDigits, rfl⟩
      rcases exponent_takes accepted with ⟨scale, scaled, rfl⟩
      exact ⟨'.' :: text, scale, .some isDigits, scaled, rfl⟩
    · cases accepted
  · rcases exponent_takes accepted with ⟨scale, scaled, rfl⟩
    exact ⟨[], scale, .none, scaled, rfl⟩

/-- A number that is skipped behind its sign is one. -/
theorem number_takes (accepted : number whole = .ok ((), rest)) {sign : List Char}
    (signed : sign = [] ∨ sign = ['-']) :
    ∃ text, NumberText (sign ++ text) ∧ whole = text ++ rest := by
  have assemble : ∀ {integer behind : List Char}, IntegerText integer →
      fraction behind = .ok ((), rest) →
      ∃ text, NumberText (sign ++ text) ∧ integer ++ behind = text ++ rest := by
    intro integer behind integral accepted
    rcases fraction_takes accepted with ⟨text, scale, fractional, scaled, rfl⟩
    exact ⟨_, .intro signed integral fractional scaled, by simp only [List.append_assoc]⟩
  rw [number.eq_def] at accepted
  split at accepted
  · cases accepted
  · next c behind =>
    split at accepted
    · next zero =>
      subst zero
      split at accepted
      · exact assemble .zero accepted
      · cases accepted
    · next leading =>
      split at accepted
      · next digit =>
        rcases exists_digits behind with ⟨front, digits, cut⟩
        have integral : IntegerText (c :: front) :=
          .positive (List.forall_mem_cons.2 ⟨digit, digits⟩) leading
        have taken := assemble integral accepted
        rwa [List.cons_append, ← cut] at taken
      · cases accepted

end Skip

/-! ## Numbers that are read -/

variable {negative : Bool} {significand : Nat} {power : Int} {value : Number}

/-- Dropping digits drops those that have been taken, too. -/
theorem dropDigits_takeDigits (start : Nat) (text : List Char) :
    dropDigits (takeDigits start text).2.2 = dropDigits text := by
  fun_induction takeDigits start text with
  | case1 => rfl
  | case2 start c rest next taken total count behind equal ih =>
      rw [equal] at ih
      rw [ih, dropDigits, dropDigits, List.dropWhile_cons_of_pos taken.1]
  | case3 => rfl

theorem takeExponent_dropDigits (start : Nat) (text : List Char) :
    match takeExponent start text with
    | (some _, behind) => behind = dropDigits text
    | (none, behind) => dropDigits behind = dropDigits text := by
  have dropped : ∀ {c : Char} {rest : List Char}, c.isDigit = true →
      dropDigits (c :: rest) = dropDigits rest :=
    fun digit => List.dropWhile_cons_of_pos digit
  fun_induction takeExponent start text with
  | case1 => rfl
  | case2 start c rest digit next small ih => rwa [dropped digit]
  | case3 start c rest digit next large => exact (dropped digit).symm
  | case4 start c rest other => exact (List.dropWhile_cons_of_neg other).symm

/-- Where the exponent of a number is read, its digits are skipped. -/
theorem exponentPart_skips
    (accepted : exponentPart negative significand power whole = .ok (value, rest)) :
    Skip.digits (takeSign whole).2 = .ok ((), rest) := by
  rw [exponentPart] at accepted
  split at accepted
  next down signed cut =>
  rw [cut]
  split at accepted
  · cases accepted
  · next c behind =>
    have reach := takeExponent_dropDigits (digitValue c) behind
    split at accepted
    · next digit =>
      rw [Skip.digits, if_pos digit]
      split at accepted
      · next taken =>
        rw [taken] at reach
        rw [finishNumber_rest accepted, reach]
      · next taken =>
        rw [taken] at reach
        split at accepted
        · cases accepted
        · cases accepted
          rw [reach]
    · cases accepted

theorem afterFraction_skips
    (accepted : afterFraction negative significand power whole = .ok (value, rest)) :
    Skip.exponent whole = .ok ((), rest) := by
  rw [afterFraction.eq_def] at accepted
  split at accepted
  · exact exponentPart_skips accepted
  · exact exponentPart_skips accepted
  · next notSmall notCapital =>
    rw [finishNumber_rest accepted, Skip.exponent]
    · exact notSmall
    · exact notCapital

theorem fractionPart_skips
    (accepted : fractionPart negative significand power whole = .ok (value, rest)) :
    Skip.fraction ('.' :: whole) = .ok ((), rest) := by
  rw [fractionPart.eq_def] at accepted
  simp only at accepted
  split at accepted
  · split at accepted <;> cases accepted
  · next some =>
    rw [dropDigits_takeDigits] at accepted
    have skipped : Skip.digits whole = .ok ((), dropDigits whole) := by
      cases whole with
      | nil => exact absurd rfl some
      | cons c behind =>
          have digit : c.isDigit = true := by
            by_contra other
            exact some (Skip.countDigits_eq_zero (Skip.noDigit_cons (by simpa using other) behind))
          rw [Skip.digits, if_pos digit, dropDigits, dropDigits,
            List.dropWhile_cons_of_pos digit]
    rw [Skip.fraction, skipped]
    exact afterFraction_skips accepted

theorem afterInteger_skips {extra : Nat}
    (accepted : afterInteger negative significand extra whole = .ok (value, rest)) :
    Skip.fraction whole = .ok ((), rest) := by
  rw [afterInteger.eq_def] at accepted
  split at accepted
  · exact fractionPart_skips accepted
  · rw [Skip.fraction, Skip.exponent]
    · exact exponentPart_skips accepted
    · simp
  · rw [Skip.fraction, Skip.exponent]
    · exact exponentPart_skips accepted
    · simp
  · next notPoint notSmall notCapital =>
    have ends : whole = rest := by
      split at accepted
      · cases accepted
        rfl
      · split at accepted
        · cases accepted
          rfl
        · exact (finishNumber_rest accepted).symm
    subst ends
    rw [Skip.fraction, Skip.exponent]
    · exact notSmall
    · exact notCapital
    · exact notPoint

/-- A number that is read takes the text that skipping it takes. -/
theorem number_skips (accepted : number negative whole = .ok (value, rest)) :
    Skip.number whole = .ok ((), rest) := by
  cases whole with
  | nil => cases accepted
  | cons c behind =>
      rw [number] at accepted
      rw [Skip.number]
      split at accepted
      · next zero =>
        rw [if_pos zero]
        split at accepted
        · next alone =>
          rw [if_pos alone]
          exact afterInteger_skips accepted
        · cases accepted
      · next leading =>
        rw [if_neg leading]
        split at accepted
        · next digit =>
          have integer := afterInteger_skips accepted
          rw [dropDigits_takeDigits] at integer
          rw [if_pos digit, integer]
        · cases accepted

/-! ## Scalars -/

theorem word_takes {value result : Value} {letters : List Char}
    (accepted : word value letters whole = .ok (result, rest)) :
    result = value ∧ whole = letters ++ rest := by
  fun_induction word value letters whole with
  | case1 =>
      cases accepted
      exact ⟨rfl, rfl⟩
  | case2 => cases accepted
  | case3 letter letters rest ih =>
      rcases ih accepted with ⟨rfl, rfl⟩
      exact ⟨rfl, rfl⟩
  | case4 => cases accepted

/-- A number that is read denotes what it is read as. -/
theorem NumberText.denotes_of_reads {text : List Char} {value : Value}
    (spelled : NumberText text) (delimited : Delimited rest)
    (reads : scalar? (text ++ rest) = some (.ok (value, rest))) : Denotes text value := by
  rcases spelled.denotes_or_outOfRange with ⟨number, denotes⟩ | refused
  · have same := denotes.scalar rest delimited
    rw [reads] at same
    cases same
    exact denotes
  · rcases refused rest delimited with ⟨unread, failed⟩
    rw [reads] at failed
    cases failed

/-- What is read as a scalar in front of a delimiter denotes it wherever it stands. -/
theorem scalar?_takes {value : Value} (accepted : scalar? whole = some (.ok (value, rest)))
    (delimited : Delimited rest) :
    ∃ text, Denotes text value ∧ WellFormed text ∧ whole = text ++ rest := by
  have ofNumber : ∀ {negative : Bool} {sign behind : List Char} {value : Value},
      sign = [] ∨ sign = ['-'] → scalar? (sign ++ behind) = some (.ok (value, rest)) →
      Outcome.map .number (number negative behind) = .ok (value, rest) →
      ∃ text, Denotes text value ∧ WellFormed text ∧ sign ++ behind = text ++ rest := by
    intro negative sign behind value signed reads accepted
    rcases Outcome.map_eq_ok accepted with ⟨_, inner, -⟩
    rcases Skip.number_takes (number_skips inner) signed with ⟨text, spelled, rfl⟩
    rw [← List.append_assoc] at reads ⊢
    exact ⟨_, spelled.denotes_of_reads delimited reads, .number spelled, rfl⟩
  rw [scalar?.eq_def] at accepted
  split at accepted
  · rcases word_takes (Option.some.inj accepted) with ⟨rfl, rfl⟩
    exact ⟨_, denotes_null, .null, rfl⟩
  · rcases word_takes (Option.some.inj accepted) with ⟨rfl, rfl⟩
    exact ⟨_, denotes_true, .true, rfl⟩
  · rcases word_takes (Option.some.inj accepted) with ⟨rfl, rfl⟩
    exact ⟨_, denotes_false, .false, rfl⟩
  · have inner := Option.some.inj accepted
    exact ofNumber (.inr rfl) accepted inner
  · rcases Outcome.map_eq_ok (Option.some.inj accepted) with ⟨string, inner, rfl⟩
    rcases stringBody_takes inner with ⟨text, chars, rfl⟩
    exact ⟨_, (StringText.intro chars).denotes, .string chars.loose, rfl⟩
  · next c behind _ _ _ _ _ =>
    split at accepted
    · next digit =>
      have reads := scalar?_digit digit behind
      have inner := Option.some.inj accepted
      rw [inner] at reads
      exact ofNumber (.inl rfl) reads inner
    · cases accepted
  · cases accepted

/-- What is skipped as a scalar is one. -/
theorem Skip.scalar?_takes (accepted : Skip.scalar? whole = some (.ok ((), rest))) :
    ∃ text, WellFormed text ∧ whole = text ++ rest := by
  have ofWord : ∀ {value : Value} {letters behind : List Char},
      Outcome.map (fun _ => ()) (word value letters behind) = .ok ((), rest) →
      behind = letters ++ rest := by
    intro value letters behind accepted
    rcases Outcome.map_eq_ok accepted with ⟨_, inner, -⟩
    exact (word_takes inner).2
  rw [Skip.scalar?.eq_def] at accepted
  split at accepted
  · rw [ofWord (Option.some.inj accepted)]
    exact ⟨_, .null, rfl⟩
  · rw [ofWord (Option.some.inj accepted)]
    exact ⟨_, .true, rfl⟩
  · rw [ofWord (Option.some.inj accepted)]
    exact ⟨_, .false, rfl⟩
  · rcases Skip.number_takes (Option.some.inj accepted) (.inr rfl) with ⟨text, spelled, rfl⟩
    exact ⟨_, .number spelled, rfl⟩
  · rcases Skip.stringBody_takes (Option.some.inj accepted) with ⟨text, loose, rfl⟩
    exact ⟨_, .string loose, rfl⟩
  · split at accepted
    · rcases Skip.number_takes (Option.some.inj accepted) (.inl rfl) with ⟨text, spelled, same⟩
      exact ⟨text, .number spelled, same⟩
    · cases accepted
  · cases accepted

end NodeDecl.Json
