import NodeDecl.Proofs.Text.ScriptLiterals
import NodeDecl.TypeExpr.Literal

/-!
# What literals denote

Read as part of a script, the text of a string literal gives its string back: each character
is read back from its escape, and no escape begins with the quote.  In backticks one thing
is left out.  A `$` with an opening brace behind it is not escaped, and what follows is read
as a substitution.
-/

namespace NodeDecl.Literal

open Script (IsLiteral codeUnits codeUnitsOf hexNumber? opening readBody readCharacter readEscape
  readLiteral)

variable {quote c : Char} {chars before after rest : List Char} {read : List Nat}

/-! ## Escapes -/

theorem mem_quotes_iff : quote ∈ quotes ↔ quote = '\'' ∨ quote = '"' ∨ quote = '\x60' := by
  rw [quotes, List.mem_cons, List.mem_cons, List.mem_singleton]

/-- The ways in which a character is written between some quotes: as it stands, or behind a
backslash. -/
inductive Spelled (quote : Char) : Char → List Char → Prop
  | plain {c : Char} (notQuote : c ≠ quote) (notBackslash : c ≠ '\\')
      (printable : isControl c = false) : Spelled quote c [c]
  | escaped {c : Char} {tail : List Char}
      (reads : ∀ rest, readEscape (tail ++ rest) = some (codeUnits c.toNat, rest))
      (printable : ∀ d ∈ tail, isControl d = false) : Spelled quote c ('\\' :: tail)

theorem codeUnits_of_control (control : isControl c = true) :
    c.toNat < 0xA0 ∧ codeUnits c.toNat = [c.toNat] := by
  have bounded : c.toNat < 0xA0 := by
    simp only [isControl, Bool.or_eq_true, Bool.and_eq_true, decide_eq_true_eq] at control
    omega
  exact ⟨bounded, if_pos (by omega)⟩

/-- The two digits of a control character are read back. -/
theorem hexNumber?_upperHexDigit {code : Nat} (bounded : code < 0xA0) :
    hexNumber? [upperHexDigit (code / 16), upperHexDigit (code % 16)] = some code ∧
      ∀ digit < 16, isControl (upperHexDigit digit) = false := by
  have digits : ∀ code < 0xA0,
      hexNumber? [upperHexDigit (code / 16), upperHexDigit (code % 16)] = some code := by
    decide +kernel
  exact ⟨digits code bounded, by decide +kernel⟩

theorem spelled_control (control : isControl c = true) :
    Spelled quote c
      ['\\', 'x', upperHexDigit (c.toNat / 16), upperHexDigit (c.toNat % 16)] := by
  obtain ⟨bounded, units⟩ := codeUnits_of_control control
  obtain ⟨number, printable⟩ := hexNumber?_upperHexDigit bounded
  apply Spelled.escaped
  · intro rest
    rw [List.cons_append, List.cons_append, List.singleton_append, readEscape, number, units]
    rfl
  · intro d member
    simp only [List.mem_cons, List.not_mem_nil, or_false] at member
    rcases member with rfl | rfl | rfl
    · rfl
    · exact printable _ (by omega)
    · exact printable _ (Nat.mod_lt _ (by decide))

/-- A character that has a letter or itself behind a backslash. -/
theorem spelled_short {letter : Char} (printable : isControl letter = false)
    (reads : ∀ rest, readEscape (letter :: rest) = some (codeUnits c.toNat, rest)) :
    Spelled quote c ['\\', letter] :=
  .escaped reads (by simpa using printable)

theorem spelled_escape (known : quote ∈ quotes) (c : Char) :
    Spelled quote c (escape quote c) := by
  fun_cases escape quote c with
  | case8 _ _ _ _ _ _ _ isQuote =>
      subst isQuote
      rcases mem_quotes_iff.1 known with rfl | rfl | rfl <;> exact spelled_short rfl fun _ => rfl
  | case9 _ _ _ _ _ _ _ _ control => exact spelled_control control
  | case10 backslash _ _ _ _ _ _ notQuote printable =>
      exact .plain notQuote backslash (by simpa using printable)
  | _ =>
      subst_vars
      exact spelled_short rfl fun _ => rfl

section

variable {piece more : List Char}

/-- A character is read back from each way in which it is written. -/
theorem Spelled.readCharacter_append (spelled : Spelled quote c piece) (more : List Char) :
    readCharacter quote (piece ++ more) = some (codeUnits c.toNat, more) := by
  cases spelled with
  | plain notQuote notBackslash printable =>
      have inLine : ¬ (c = '\r' ∨ c = '\n') := by
        rintro (rfl | rfl) <;> contradiction
      rw [List.singleton_append, readCharacter]
      · rw [if_neg inLine]
      · exact notBackslash
      · rintro _ rfl
        exact absurd (.inl rfl) inLine
  | escaped reads => rw [List.cons_append, readCharacter, reads]

/-- Without a backslash there is the character itself. -/
theorem Spelled.eq_of_head? {d : Char} (spelled : Spelled quote c piece) (other : d ≠ '\\')
    (found : (piece ++ more).head? = some d) : c = d := by
  cases spelled with
  | plain => exact Option.some.inj found
  | escaped => exact absurd (Option.some.inj found).symm other

theorem Spelled.head?_ne (spelled : Spelled quote c piece) (known : quote ∈ quotes) :
    (piece ++ more).head? ≠ some quote := by
  intro found
  cases spelled with
  | plain notQuote => exact notQuote (Option.some.inj found)
  | escaped =>
      rw [List.cons_append, List.head?_cons, Option.some.injEq] at found
      subst found
      contradiction

theorem Spelled.printable (spelled : Spelled quote c piece) :
    ∀ d ∈ piece, isControl d = false := by
  cases spelled with
  | plain _ _ printable => simpa using printable
  | escaped _ printable => exact List.forall_mem_cons.2 ⟨rfl, printable⟩

end

/-! ## What stands between the quotes -/

/-- The text of some characters, the quote behind them and what follows it. -/
def closed (quote : Char) (chars rest : List Char) : List Char :=
  chars.flatMap (escape quote) ++ quote :: rest

theorem closed_cons :
    closed quote (c :: chars) rest = escape quote c ++ closed quote chars rest := by
  rw [closed, List.flatMap_cons, List.append_assoc, closed]

theorem head?_closed_cons_ne (known : quote ∈ quotes) :
    (closed quote (c :: chars) rest).head? ≠ some quote := by
  rw [closed_cons]
  exact (spelled_escape known c).head?_ne known

/-- What begins as a character that stands for itself has that character. -/
theorem head?_of_closed {d : Char} (known : quote ∈ quotes) (other : d ∉ '\\' :: quotes)
    (found : (closed quote chars rest).head? = some d) : chars.head? = some d := by
  simp only [List.mem_cons, not_or] at other
  cases chars with
  | nil =>
      cases found
      exact absurd known other.2
  | cons c chars =>
      rw [closed_cons] at found
      rw [List.head?_cons, (spelled_escape known c).eq_of_head? other.1 found]

/-- What stands between the quotes tells where it ends. -/
theorem closed_inj {chars' rest' : List Char} (known : quote ∈ quotes)
    (equal : closed quote chars rest = closed quote chars' rest') :
    chars = chars' ∧ rest = rest' := by
  induction chars generalizing chars' with
  | nil =>
      cases chars' with
      | nil => exact ⟨rfl, (List.cons.inj equal).2⟩
      | cons d chars' =>
          exact absurd (congrArg List.head? equal).symm (head?_closed_cons_ne known)
  | cons c chars ih =>
      cases chars' with
      | nil => exact absurd (congrArg List.head? equal) (head?_closed_cons_ne known)
      | cons d chars' =>
          -- Both sides are read by one character, whether or not it opens a substitution.
          have next := congrArg (readCharacter quote) equal
          rw [closed_cons, closed_cons, (spelled_escape known c).readCharacter_append,
            (spelled_escape known d).readCharacter_append, Option.some.injEq, Prod.mk.injEq] at next
          obtain ⟨rfl, rfl⟩ := ih next.2
          rw [Script.codeUnits_inj next.1]
          exact ⟨rfl, rfl⟩

theorem escape_dollar (known : quote ∈ quotes) : escape quote '$' = ['$'] := by
  rcases mem_quotes_iff.1 known with rfl | rfl | rfl <;> rfl

/-- Only the characters themselves open a substitution. -/
theorem opening_of_closed (known : quote ∈ quotes)
    (opens : opening <+: closed quote chars rest) : opening <+: chars := by
  obtain ⟨behind, equal⟩ := opens
  have first : chars.head? = some '$' :=
    head?_of_closed known (by decide) (by rw [← equal]; rfl)
  obtain ⟨others, rfl⟩ := List.head?_eq_some_iff.1 first
  rw [closed_cons, escape_dollar known, List.singleton_append] at equal
  have second : others.head? = some '\x7b' :=
    head?_of_closed known (by decide) (by rw [← (List.cons.inj equal).2]; rfl)
  obtain ⟨_, rfl⟩ := List.head?_eq_some_iff.1 second
  exact ⟨_, rfl⟩

/-- One turn of reading a literal. -/
theorem readBody_closed_cons (known : quote ∈ quotes)
    (clear : quote = '\x60' → ¬ opening <+: c :: chars) :
    readBody quote read (closed quote (c :: chars) rest) =
      readBody quote (read ++ codeUnits c.toNat) (closed quote chars rest) := by
  have goesOn : ¬ (quote = '\x60' ∧ opening <+: closed quote (c :: chars) rest) :=
    fun ⟨backtick, opens⟩ => clear backtick (opening_of_closed known opens)
  rw [readBody, if_neg (head?_closed_cons_ne known), if_neg goesOn, closed_cons]
  rw [(spelled_escape known c).readCharacter_append]

/-- Up to a place where nothing has opened a substitution, all characters are read. -/
theorem readBody_closed_append (known : quote ∈ quotes)
    (clear : quote = '\x60' → ¬ opening <:+: before) (apart : after.head? ≠ some '\x7b') :
    readBody quote read (closed quote (before ++ after) rest) =
      readBody quote (read ++ codeUnitsOf before) (closed quote after rest) := by
  -- The last of `before` may be `$`, and then it depends on `after` whether it opens anything.
  induction before generalizing read with
  | nil => rw [List.nil_append, codeUnitsOf, List.flatMap_nil, List.append_nil]
  | cons c before ih =>
      have clearNow : quote = '\x60' → ¬ opening <+: c :: (before ++ after) := by
        rintro backtick ⟨behind, equal⟩
        simp only [opening, List.cons_append, List.nil_append, List.cons.injEq] at equal
        obtain ⟨rfl, equal⟩ := equal
        cases before with
        | nil => exact apart (by rw [← List.nil_append after, ← equal, List.head?_cons])
        | cons d before =>
            obtain ⟨rfl, -⟩ := List.cons.inj equal
            exact clear backtick ⟨[], before, rfl⟩
      have clearLater : quote = '\x60' → ¬ opening <:+: before :=
        fun backtick inside => clear backtick (inside.trans (List.suffix_cons c before).isInfix)
      rw [List.cons_append, readBody_closed_cons known clearNow, ih clearLater, List.append_assoc]
      rfl

/-- The quote ends a literal. -/
theorem readBody_closed_nil :
    readBody quote read (closed quote [] rest) = some (.literal read, rest) := by
  rw [closed, List.flatMap_nil, List.nil_append, readBody, if_pos List.head?_cons, List.tail_cons]

/-- An opened substitution ends what is read of a template. -/
theorem readBody_closed_opening (chars : List Char) :
    readBody '\x60' read (closed '\x60' (opening ++ chars) rest) =
      some (.templateHead read, closed '\x60' chars rest) := by
  have same : closed '\x60' (opening ++ chars) rest = opening ++ closed '\x60' chars rest := rfl
  rw [same, readBody, if_neg (by simp [opening]), if_pos ⟨rfl, List.prefix_append opening _⟩]
  rfl

/-! ## Whole literals -/

/-- A string that stands in backticks and has what opens a substitution. -/
structure OpensSubstitution (value : String) : Prop where
  single : '\'' ∈ value.toList
  double : '"' ∈ value.toList
  backtick : '\x60' ∉ value.toList
  opening : opening <:+: value.toList

theorem quoteFor_mem (chars : List Char) : quoteFor chars ∈ quotes := by
  rw [quoteFor]
  cases found : quotes.find? fun quote => !chars.contains quote with
  | none => exact List.mem_cons_self
  | some quote => exact List.mem_of_find?_eq_some found

/-- Backticks are for what has both other quotes and no backtick. -/
theorem quoteFor_eq_backtick_iff :
    quoteFor chars = '\x60' ↔ '\'' ∈ chars ∧ '"' ∈ chars ∧ '\x60' ∉ chars := by
  by_cases single : '\'' ∈ chars <;> by_cases double : '"' ∈ chars <;>
    by_cases backtick : '\x60' ∈ chars <;>
    simp [quoteFor, quotes, single, double, backtick]

theorem opensSubstitution_iff {value : String} :
    OpensSubstitution value ↔ quoteFor value.toList = '\x60' ∧ opening <:+: value.toList := by
  rw [quoteFor_eq_backtick_iff]
  constructor
  · rintro ⟨single, double, backtick, opens⟩
    exact ⟨⟨single, double, backtick⟩, opens⟩
  · rintro ⟨⟨single, double, backtick⟩, opens⟩
    exact ⟨single, double, backtick, opens⟩

/-- What opens substitutions has a first place where it does. -/
theorem exists_first_opening (inside : opening <:+: chars) :
    ∃ before after, chars = before ++ (opening ++ after) ∧ ¬ opening <:+: before := by
  induction chars with
  | nil => exact absurd (List.eq_nil_of_infix_nil inside) (by decide)
  | cons c chars ih =>
      by_cases now : opening <+: c :: chars
      · obtain ⟨after, equal⟩ := now
        exact ⟨[], after, equal.symm, by decide⟩
      · obtain ⟨before, after, rfl, first⟩ := ih ((List.infix_cons_iff.1 inside).resolve_left now)
        refine ⟨c :: before, after, rfl, fun again => ?_⟩
        rcases List.infix_cons_iff.1 again with here | later
        · exact now (here.trans (List.prefix_append (c :: before) _))
        · exact first later

theorem toList_text_string (value : String) (rest : List Char) :
    (text (.string value)).toList ++ rest =
      quoteFor value.toList :: closed (quoteFor value.toList) value.toList rest := by
  rw [text, String.toList_ofList, ofString, closed]
  simp only [List.cons_append, List.append_assoc, List.nil_append]

/-- The text of a string tells where it ends. -/
theorem text_string_inj {value value' : String} {rest' : List Char}
    (equal : (text (.string value)).toList ++ rest = (text (.string value')).toList ++ rest') :
    value = value' ∧ rest = rest' := by
  rw [toList_text_string, toList_text_string, List.cons.injEq] at equal
  obtain ⟨sameQuote, equal⟩ := equal
  rw [← sameQuote] at equal
  obtain ⟨sameChars, sameRest⟩ := closed_inj (quoteFor_mem _) equal
  exact ⟨String.toList_inj.1 sameChars, sameRest⟩

theorem readLiteral_text_string (value : String) (rest : List Char) :
    readLiteral ((text (.string value)).toList ++ rest) =
      readBody (quoteFor value.toList) [] (closed (quoteFor value.toList) value.toList rest) := by
  rw [toList_text_string, readLiteral]
  exact if_pos (quoteFor_mem _)

/-- Unless it opens a substitution, a string is read back. -/
theorem isLiteral_text_string {value : String} (closes : ¬ OpensSubstitution value) :
    IsLiteral (text (.string value)).toList (codeUnitsOf value.toList) := by
  intro rest
  have clear : quoteFor value.toList = '\x60' → ¬ opening <:+: value.toList :=
    fun backtick opens => closes (opensSubstitution_iff.2 ⟨backtick, opens⟩)
  have known := quoteFor_mem value.toList
  calc readLiteral ((text (.string value)).toList ++ rest)
    _ = readBody (quoteFor value.toList) []
          (closed (quoteFor value.toList) (value.toList ++ []) rest) := by
        rw [readLiteral_text_string, List.append_nil]
    _ = readBody (quoteFor value.toList) (codeUnitsOf value.toList)
          (closed (quoteFor value.toList) [] rest) := by
        rw [readBody_closed_append known clear (by simp), List.nil_append]
    _ = some (.literal (codeUnitsOf value.toList), rest) := readBody_closed_nil

/-- A string that opens a substitution is read up to the first place where it does. -/
theorem readLiteral_of_opensSubstitution {value : String} (opens : OpensSubstitution value) :
    ∃ before after, value.toList = before ++ (opening ++ after) ∧ ¬ opening <:+: before ∧
      ∀ rest, readLiteral ((text (.string value)).toList ++ rest) =
        some (.templateHead (codeUnitsOf before), closed '\x60' after rest) := by
  have known : '\x60' ∈ quotes := by decide
  obtain ⟨before, after, split, first⟩ := exists_first_opening opens.opening
  refine ⟨before, after, split, first, fun rest => ?_⟩
  rw [readLiteral_text_string, (opensSubstitution_iff.1 opens).1, split,
    readBody_closed_append known (fun _ => first) (by simp [opening]), readBody_closed_opening,
    List.nil_append]

theorem not_isLiteral_of_opensSubstitution {value : String} (opens : OpensSubstitution value)
    (units : List Nat) : ¬ IsLiteral (text (.string value)).toList units := by
  intro reads
  obtain ⟨before, after, -, -, found⟩ := readLiteral_of_opensSubstitution opens
  have both := (reads []).symm.trans (found [])
  simp at both

theorem printable_of_mem_quotes (known : quote ∈ quotes) : isControl quote = false := by
  rcases mem_quotes_iff.1 known with rfl | rfl | rfl <;> rfl

theorem printable_text_string (value : String) :
    ∀ c ∈ (text (.string value)).toList, isControl c = false := by
  have known := quoteFor_mem value.toList
  rw [text, String.toList_ofList, ofString]
  intro c member
  simp only [List.mem_append, List.mem_cons, List.mem_flatMap, List.not_mem_nil, or_false]
    at member
  rcases member with (rfl | ⟨d, -, member⟩) | rfl
  · exact printable_of_mem_quotes known
  · exact (spelled_escape known d).printable c member
  · exact printable_of_mem_quotes known

/-- The text of a string literal is one whole literal of a script with the string as its
value, exactly if the string does not open a substitution.  If it does, what is read is a
template up to the first place where it does.  In both cases the text is free of control
characters. -/
theorem text_isLiteral_iff (value : String) :
    (IsLiteral (text (.string value)).toList (codeUnitsOf value.toList) ↔
      ¬ OpensSubstitution value) ∧
    (OpensSubstitution value → ∃ before after,
      value.toList = before ++ (opening ++ after) ∧ ¬ opening <:+: before ∧
      ∀ rest, readLiteral ((text (.string value)).toList ++ rest) =
        some (.templateHead (codeUnitsOf before), closed '\x60' after rest)) ∧
    ∀ c ∈ (text (.string value)).toList,
      0x20 ≤ c.toNat ∧ (c.toNat < 0x7F ∨ 0xA0 ≤ c.toNat) := by
  refine ⟨⟨fun reads opens => not_isLiteral_of_opensSubstitution opens _ reads,
    isLiteral_text_string⟩, readLiteral_of_opensSubstitution, fun c member => ?_⟩
  have printable := printable_text_string value c member
  simp only [isControl, Bool.or_eq_false_iff, Bool.and_eq_false_iff, decide_eq_false_iff_not]
    at printable
  omega

/-- Between both other quotes, `$` and an opening brace are left as they are in backticks. -/
theorem text_not_isLiteral :
    ¬ IsLiteral (text (.string "'\"$\x7bx\x7d")).toList (codeUnitsOf "'\"$\x7bx\x7d".toList) := by
  have opens : OpensSubstitution "'\"$\x7bx\x7d" :=
    ⟨by decide, by decide, by decide, ['\'', '"'], ['x', '\x7d'], rfl⟩
  exact not_isLiteral_of_opensSubstitution opens _

end NodeDecl.Literal
