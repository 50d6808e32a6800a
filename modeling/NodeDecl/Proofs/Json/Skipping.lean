import NodeDecl.Json.Skip
import NodeDecl.Proofs.Json.Containers

/-!
# Well-formed values are passed over

A value that nobody asks for may be of any kind, nested to any depth and with any blanks
in it.  Its numbers may be of any size, and the code units in its strings need not be
paired.  `WellFormed` says which texts are such values, and skipping takes exactly the
text of each of them.
-/

namespace NodeDecl.Json

/-! ## Texts of values -/

/-- The ways to write the inside of a string of which nothing is kept, with the quote that
closes it. -/
inductive LooseText : List Char → Prop
  | close : LooseText ['"']
  | plain {c : Char} {text : List Char} (printable : 32 ≤ c.toNat) (notQuote : c ≠ '"')
      (notBackslash : c ≠ '\\') (others : LooseText text) : LooseText (c :: text)
  | short {letter c : Char} {text : List Char} (stands : shortEscape? letter = some c)
      (others : LooseText text) : LooseText ('\\' :: letter :: text)
  | unit {a b c d : Char} {code : Nat} {text : List Char}
      (digits : fourHexValue? a b c d = some code) (others : LooseText text) :
      LooseText ('\\' :: 'u' :: a :: b :: c :: d :: text)

/-- One digit or more. -/
structure DigitsText (text : List Char) : Prop where
  nonempty : text ≠ []
  digits : ∀ c ∈ text, c.isDigit = true

/-- The digits in front of the decimal point.  A zero stands alone. -/
inductive IntegerText : List Char → Prop
  | zero : IntegerText ['0']
  | positive {first : Char} {others : List Char} (digits : ∀ c ∈ first :: others, c.isDigit = true)
      (leading : first ≠ '0') : IntegerText (first :: others)

theorem IntegerText.front {text : List Char} (integral : IntegerText text) :
    ∃ c others, text = c :: others ∧ c.isDigit = true := by
  cases integral with
  | zero => exact ⟨'0', [], rfl, rfl⟩
  | positive digits _ => exact ⟨_, _, rfl, digits _ List.mem_cons_self⟩

/-- The decimal point and the digits behind it, if there are any. -/
inductive FractionText : List Char → Prop
  | none : FractionText []
  | some {text : List Char} (digits : DigitsText text) : FractionText ('.' :: text)

/-- The exponent, if there is one. -/
inductive ExponentText : List Char → Prop
  | none : ExponentText []
  | some {letter : Char} {sign text : List Char} (isLetter : letter = 'e' ∨ letter = 'E')
      (signed : sign = [] ∨ sign = ['+'] ∨ sign = ['-']) (digits : DigitsText text) :
      ExponentText (letter :: (sign ++ text))

/-- The ways to write a number. -/
inductive NumberText : List Char → Prop
  | intro {sign integer fraction exponent : List Char} (signed : sign = [] ∨ sign = ['-'])
      (integral : IntegerText integer) (fractional : FractionText fraction)
      (scaled : ExponentText exponent) :
      NumberText (sign ++ (integer ++ (fraction ++ exponent)))

/-- The texts that are values. -/
inductive WellFormed : List Char → Prop
  | null : WellFormed "null".toList
  | true : WellFormed "true".toList
  | false : WellFormed "false".toList
  | number {text : List Char} (number : NumberText text) : WellFormed text
  | string {text : List Char} (inside : LooseText text) : WellFormed ('"' :: text)
  | array {items : List (List Char)} {text : List Char}
      (wellFormed : ∀ item ∈ items, WellFormed item)
      (body : BodyText ']' items text) : WellFormed ('[' :: text)
  | object {members : List MemberText} {text : List Char}
      (keys : ∀ member ∈ members, ∃ inside, member.key = '"' :: inside ∧ LooseText inside)
      (wellFormed : ∀ member ∈ members, WellFormed member.value)
      (body : BodyText '}' (members.map (·.text)) text) : WellFormed ('{' :: text)

namespace Skip

variable {text rest : List Char}

/-! ## Numbers -/

/-- A text that does not go on with a digit. -/
def NoDigit (text : List Char) : Prop :=
  ∀ c behind, text = c :: behind → c.isDigit = false

theorem noDigit_cons {c : Char} (other : c.isDigit = false) (behind : List Char) :
    NoDigit (c :: behind) := by
  intro _ _ equal
  cases equal
  exact other

theorem noDigit_of_delimited (delimited : Delimited rest) : NoDigit rest :=
  fun c behind equal => not_isDigit_of_delimiter (delimited c behind equal)

theorem dropDigits_append (digits : ∀ c ∈ text, c.isDigit = true) (stops : NoDigit rest) :
    dropDigits (text ++ rest) = rest := by
  rw [dropDigits, List.dropWhile_append_of_pos digits]
  cases rest with
  | nil => rfl
  | cons c behind => exact List.dropWhile_cons_of_neg (by simp [stops c behind rfl])

theorem countDigits_append (digits : ∀ c ∈ text, c.isDigit = true) (stops : NoDigit rest) :
    countDigits (text ++ rest) = text.length := by
  rw [countDigits, List.takeWhile_append_of_pos digits, List.length_append]
  cases rest with
  | nil => rfl
  | cons c behind => simp [stops c behind rfl]

theorem countDigits_eq_zero (stops : NoDigit rest) : countDigits rest = 0 := by
  have none : ∀ c ∈ ([] : List Char), c.isDigit = true := by simp
  exact countDigits_append none stops

theorem digits_append (isDigits : DigitsText text) (stops : NoDigit rest) :
    digits (text ++ rest) = .ok ((), rest) := by
  obtain ⟨nonempty, all⟩ := isDigits
  cases text with
  | nil => contradiction
  | cons c others =>
      obtain ⟨first, others⟩ := List.forall_mem_cons.1 all
      rw [List.cons_append, digits, if_pos first, dropDigits_append others stops]

/-- A sign is taken, if there is one, in front of digits. -/
theorem takeSign_append {sign : List Char} (signed : sign = [] ∨ sign = ['+'] ∨ sign = ['-'])
    (isDigits : DigitsText text) (rest : List Char) :
    takeSign (sign ++ (text ++ rest)) = (decide (sign = ['-']), text ++ rest) := by
  obtain ⟨nonempty, all⟩ := isDigits
  obtain rfl | rfl | rfl := signed
  · cases text with
    | nil => contradiction
    | cons c others =>
        have digit := all c List.mem_cons_self
        rw [List.nil_append, List.cons_append, takeSign.eq_def]
        split
        · next equal =>
            cases equal
            contradiction
        · next equal =>
            cases equal
            contradiction
        · rfl
  · rfl
  · rfl

theorem exponent_append (scaled : ExponentText text) (delimited : Delimited rest) :
    exponent (text ++ rest) = .ok ((), rest) := by
  cases scaled with
  | none =>
      rw [List.nil_append, exponent.eq_def]
      split
      · exact absurd (delimited _ _ rfl) (by decide)
      · exact absurd (delimited _ _ rfl) (by decide)
      · rfl
  | some isLetter signed isDigits =>
      have run := digits_append isDigits (noDigit_of_delimited delimited)
      rw [List.cons_append, List.append_assoc]
      obtain rfl | rfl := isLetter
      · rw [exponent, takeSign_append signed isDigits, run]
      · rw [exponent, takeSign_append signed isDigits, run]

/-- An exponent, or what stands behind a number, goes on with no digit. -/
theorem noDigit_exponent (scaled : ExponentText text) (delimited : Delimited rest) :
    NoDigit (text ++ rest) := by
  cases scaled with
  | none => exact noDigit_of_delimited delimited
  | some isLetter _ _ =>
      obtain rfl | rfl := isLetter
      · exact noDigit_cons rfl _
      · exact noDigit_cons rfl _

theorem fraction_append {scale : List Char} (fractional : FractionText text)
    (scaled : ExponentText scale) (delimited : Delimited rest) :
    fraction (text ++ (scale ++ rest)) = .ok ((), rest) := by
  have run := exponent_append scaled delimited
  cases fractional with
  | none =>
      rw [List.nil_append, fraction.eq_def]
      split
      · next equal =>
          cases scaled with
          | none => exact absurd (delimited _ _ equal) (by decide)
          | some isLetter _ _ =>
              obtain ⟨rfl, -⟩ := List.cons.inj equal
              obtain differ | differ := isLetter
              · contradiction
              · contradiction
      · exact run
  | some isDigits =>
      rw [List.cons_append, fraction,
        digits_append isDigits (noDigit_exponent scaled delimited)]
      exact run

theorem noDigit_fraction {scale : List Char} (fractional : FractionText text)
    (scaled : ExponentText scale) (delimited : Delimited rest) :
    NoDigit (text ++ (scale ++ rest)) := by
  cases fractional with
  | none =>
      rw [List.nil_append]
      exact noDigit_exponent scaled delimited
  | some _ => exact noDigit_cons rfl _

theorem number_append {fractionText scale : List Char} (integral : IntegerText text)
    (fractional : FractionText fractionText) (scaled : ExponentText scale)
    (delimited : Delimited rest) :
    number (text ++ (fractionText ++ (scale ++ rest))) = .ok ((), rest) := by
  have stops := noDigit_fraction fractional scaled delimited
  have run := fraction_append fractional scaled delimited
  cases integral with
  | zero =>
      rw [List.singleton_append, number, if_pos rfl, if_pos (countDigits_eq_zero stops)]
      exact run
  | positive digits leading =>
      obtain ⟨first, others⟩ := List.forall_mem_cons.1 digits
      rw [List.cons_append, number, if_neg leading, if_pos first, dropDigits_append others stops]
      exact run

theorem scalar?_digit {c : Char} (digit : c.isDigit = true) (behind : List Char) :
    scalar? (c :: behind) = some (number (c :: behind)) := by
  rw [scalar?, if_pos digit]
  all_goals exact ne_of_isDigit digit rfl

/-! ## Scalars -/

/-- A text that is passed over as a scalar, up to a delimiter. -/
structure Scalar (text : List Char) : Prop where
  opens : ∃ c behind, text = c :: behind ∧ isDelimiter c = false ∧ isBracket c = false
  scalar : ∀ rest, Delimited rest → scalar? (text ++ rest) = some (.ok ((), rest))

theorem scalar_number (isNumber : NumberText text) : Scalar text := by
  obtain ⟨signed, integral, fractional, scaled⟩ := isNumber
  obtain rfl | rfl := signed
  · obtain ⟨c, others, front, digit⟩ := integral.front
    constructor
    · rw [front]
      exact ⟨c, _, rfl, isDelimiter_of_isDigit digit, isBracket_of_isDigit digit⟩
    · intro rest delimited
      have run := number_append integral fractional scaled delimited
      simp only [List.nil_append, List.append_assoc]
      rw [front, List.cons_append] at run ⊢
      rw [scalar?_digit digit, run]
  · constructor
    · exact ⟨'-', _, rfl, rfl, rfl⟩
    · intro rest delimited
      simp only [List.cons_append, List.nil_append, List.append_assoc]
      rw [scalar?, number_append integral fractional scaled delimited]

/-- The inside of a string is passed over. -/
theorem stringBody_looseText (inside : LooseText text) (rest : List Char) :
    stringBody.run (text ++ rest) = .ok ((), rest) := by
  show Reader.iterate stringStep () _ = _
  have more : ∀ {whole behind : List Char}, stringPiece whole = .ok (true, behind) →
      Reader.iterate stringStep () whole = Reader.iterate stringStep () behind := by
    intro whole behind piece
    rw [Reader.iterate_eq, stringStep]
    simp only [piece, Outcome.map, if_true]
  induction inside with
  | close =>
      rw [Reader.iterate_eq]
      rfl
  | plain printable notQuote notBackslash _ ih =>
      rw [List.cons_append, more ?_]
      · exact ih
      · rw [stringPiece, if_neg (Nat.not_lt.2 printable)]
        · exact notQuote
        · exact notBackslash
  | @short letter _ _ stands _ ih =>
      have other : letter ≠ 'u' := by
        rintro rfl
        contradiction
      rw [List.cons_append, List.cons_append, more ?_]
      · exact ih
      · rw [stringPiece, escape, stands]
        · rfl
        · exact other
  | unit digits _ ih =>
      simp only [List.cons_append]
      rw [more ?_]
      · exact ih
      · rw [stringPiece, escape, fourHex, digits]
        rfl

theorem scalar_string (inside : LooseText text) : Scalar ('"' :: text) where
  opens := ⟨'"', _, rfl, rfl, rfl⟩
  scalar rest _ := by
    rw [List.cons_append, scalar?, stringBody_looseText inside]

theorem scalar_null : Scalar "null".toList where
  opens := ⟨'n', ['u', 'l', 'l'], rfl, rfl, rfl⟩
  scalar _ _ := rfl

theorem scalar_true : Scalar "true".toList where
  opens := ⟨'t', ['r', 'u', 'e'], rfl, rfl, rfl⟩
  scalar _ _ := rfl

theorem scalar_false : Scalar "false".toList where
  opens := ⟨'f', ['a', 'l', 's', 'e'], rfl, rfl, rfl⟩
  scalar _ _ := rfl

/-! ## Lists and objects -/

/-- Skipping from a state on. -/
abbrev goOn (state : State) (text : List Char) : Outcome Unit :=
  Reader.iterate step state text

/-- What is left to do behind a complete value. -/
def leave : List Frame → List Char → Outcome Unit
  | [], rest => .ok ((), rest)
  | frame :: outer, rest => goOn (.behindValue frame outer) rest

variable {state : State} {frames outer : List Frame} {frame : Frame} {gap part : List Char}
  {parts : List (List Char)}

theorem goOn_of_advance {next : State}
    (turn : advance state (dropBlank text) = .ok (.inl next, rest)) :
    goOn state text = goOn next rest := by
  rw [goOn, Reader.iterate_eq, step]
  simp only [turn]

theorem goOn_of_behind (turn : advance state (dropBlank text) = .ok (behind frames, rest)) :
    goOn state text = leave frames rest := by
  rw [goOn, Reader.iterate_eq, step]
  cases frames with
  | nil => simp only [turn, behind, leave]
  | cons frame outer => simp only [turn, behind, leave]

/-- Blanks in front are dropped in any state. -/
theorem goOn_append (blank : Blank gap) (text : List Char) :
    goOn state (gap ++ text) = goOn state text := by
  rw [goOn, goOn, Reader.iterate_eq, Reader.iterate_eq step state text, step]
  simp only [dropBlank_append blank]

/-- A text that is passed over as a value, up to a delimiter. -/
structure Passes (text : List Char) : Prop where
  opens : Opens text
  value : ∀ frames rest, Delimited rest →
    goOn (.value frames) (text ++ rest) = leave frames rest

theorem Scalar.passes (isScalar : Scalar text) : Passes text := by
  obtain ⟨⟨c, others, rfl, token, bracket⟩, scalar⟩ := isScalar
  constructor
  · exact opens_cons token others
  · intro frames rest delimited
    apply goOn_of_behind
    rw [List.cons_append, dropBlank_cons (isBlank_of_opens token), advance]
    have run := scalar rest delimited
    rw [List.cons_append] at run
    rw [valueStep.eq_def]
    split
    · contradiction
    · next equal =>
        cases equal
        contradiction
    · next equal =>
        cases equal
        contradiction
    · rw [run]
      rfl

/-- What comes next inside a frame: an item or a member. -/
def inside (outer : List Frame) : Frame → State
  | .list => .value (.list :: outer)
  | .object => .member outer

/-- A text that is passed over as a part of a frame. -/
structure PassesIn (frame : Frame) (text : List Char) : Prop where
  opens : Opens text
  part : ∀ outer rest, Delimited rest →
    goOn (inside outer frame) (text ++ rest) = goOn (.behindValue frame outer) rest

theorem isDelimiter_closing (frame : Frame) : isDelimiter frame.closing = true := by
  cases frame with
  | list => rfl
  | object => rfl

/-- The first part of a frame. -/
theorem goOn_opened (opens : Opens part) (rest : List Char) :
    goOn (.opened frame outer) (part ++ rest) = goOn (inside outer frame) (part ++ rest) := by
  obtain ⟨c, others, rfl, token⟩ := opens
  have front : c ≠ frame.closing := by
    rintro rfl
    rw [isDelimiter_closing] at token
    contradiction
  rw [goOn, goOn, Reader.iterate_eq, Reader.iterate_eq step (inside outer frame), step, step]
  simp only [List.cons_append, dropBlank_cons (isBlank_of_opens token)]
  cases frame with
  | list => simp only [advance, if_neg front, inside]
  | object => simp only [advance, if_neg front, inside]

theorem dropBlank_closing (blank : Blank gap) (frame : Frame) (rest : List Char) :
    dropBlank (gap ++ [frame.closing] ++ rest) = frame.closing :: rest := by
  rw [List.append_assoc, List.singleton_append]
  cases frame with
  | list => exact dropBlank_token rfl blank rest
  | object => exact dropBlank_token rfl blank rest

/-- The parts behind the first are passed over. -/
theorem goOn_tailText (passes : ∀ part ∈ parts, PassesIn frame part)
    (tail : TailText frame.closing parts text) (rest : List Char) :
    goOn (.behindValue frame outer) (text ++ rest) = leave outer rest := by
  induction tail with
  | close blank =>
      apply goOn_of_behind
      rw [dropBlank_closing blank]
      exact if_pos rfl
  | @more before after part text parts beforeBlank afterBlank tail ih =>
      obtain ⟨first, others⟩ := List.forall_mem_cons.1 passes
      have comma : goOn (.behindValue frame outer)
          (before ++ ',' :: (after ++ (part ++ text)) ++ rest) =
          goOn (inside outer frame) (after ++ (part ++ (text ++ rest))) := by
        apply goOn_of_advance
        simp only [List.append_assoc, List.cons_append]
        rw [dropBlank_token rfl beforeBlank]
        cases frame with
        | list => rfl
        | object => rfl
      rw [comma, goOn_append afterBlank,
        first.part outer _ (tail.delimited (isDelimiter_closing frame) rest)]
      exact ih others

/-- A list or an object is passed over behind its opening bracket. -/
theorem goOn_bodyText (passes : ∀ part ∈ parts, PassesIn frame part)
    (body : BodyText frame.closing parts text) (rest : List Char) :
    goOn (.opened frame outer) (text ++ rest) = leave outer rest := by
  cases body with
  | empty blank =>
      apply goOn_of_behind
      rw [dropBlank_closing blank]
      exact if_pos rfl
  | parts blank tail =>
      obtain ⟨first, others⟩ := List.forall_mem_cons.1 passes
      rw [List.append_assoc, List.append_assoc, goOn_append blank, goOn_opened first.opens,
        first.part outer _ (tail.delimited (isDelimiter_closing frame) rest)]
      exact goOn_tailText others tail rest

/-- An item is passed over as the value that it is. -/
theorem Passes.item (passes : Passes text) : PassesIn .list text where
  opens := passes.opens
  part outer rest delimited := passes.value (.list :: outer) rest delimited

/-- A member is passed over with its key if its value is. -/
theorem Passes.member {member : MemberText} {key : List Char} (quoted : member.key = '"' :: key)
    (loose : LooseText key) (passes : Passes member.value) : PassesIn .object member.text where
  opens := by
    rw [MemberText.text, quoted]
    exact opens_cons rfl _
  part outer rest delimited := by
    have keyed : goOn (.member outer) (member.text ++ rest) =
        goOn (.value (.object :: outer)) (member.afterColon ++ (member.value ++ rest)) := by
      apply goOn_of_advance
      rw [MemberText.text, quoted]
      simp only [List.append_assoc, List.cons_append]
      rw [dropBlank_cons rfl, advance, memberStep, stringBody_looseText loose]
      dsimp only
      rw [dropBlank_token rfl member.beforeColon_blank]
      rfl
    rw [inside, keyed, goOn_append member.afterColon_blank]
    exact passes.value (.object :: outer) rest delimited

/-- Members are passed over if their values are. -/
theorem passesIn_members {members : List MemberText}
    (keys : ∀ member ∈ members, ∃ inside, member.key = '"' :: inside ∧ LooseText inside)
    (passes : ∀ member ∈ members, Passes member.value) :
    ∀ part ∈ members.map (·.text), PassesIn .object part := by
  intro part written
  obtain ⟨member, inside, rfl⟩ := List.mem_map.1 written
  obtain ⟨key, quoted, loose⟩ := keys member inside
  exact (passes member inside).member quoted loose

/-- A list or an object is passed over with its opening bracket. -/
theorem goOn_bracket {opening : Char} (token : isDelimiter opening = false)
    (opened : ∀ frames behind, valueStep frames (opening :: behind) =
      .ok (.inl (.opened frame frames), behind))
    (passes : ∀ part ∈ parts, PassesIn frame part) (body : BodyText frame.closing parts text)
    (frames : List Frame) (rest : List Char) :
    goOn (.value frames) (opening :: text ++ rest) = leave frames rest := by
  have entered : goOn (.value frames) (opening :: text ++ rest) =
      goOn (.opened frame frames) (text ++ rest) := by
    apply goOn_of_advance
    rw [List.cons_append, dropBlank_cons (isBlank_of_opens token)]
    exact opened frames _
  rw [entered]
  exact goOn_bodyText passes body rest

/-- A list is passed over if its items are, and an object if its members are. -/
theorem passes_bracket {opening : Char} (token : isDelimiter opening = false)
    (opened : ∀ frames behind, valueStep frames (opening :: behind) =
      .ok (.inl (.opened frame frames), behind))
    (passes : ∀ part ∈ parts, PassesIn frame part) (body : BodyText frame.closing parts text) :
    Passes (opening :: text) where
  opens := opens_cons token text
  value frames rest _ := goOn_bracket token opened passes body frames rest

end Skip

/-- A well-formed value is passed over in any state. -/
theorem WellFormed.passes {text : List Char} (wellFormed : WellFormed text) :
    Skip.Passes text := by
  induction wellFormed with
  | null => exact Skip.scalar_null.passes
  | true => exact Skip.scalar_true.passes
  | false => exact Skip.scalar_false.passes
  | number isNumber => exact (Skip.scalar_number isNumber).passes
  | string inside => exact (Skip.scalar_string inside).passes
  | array _ body ih =>
      have items := fun item member => (ih item member).item
      exact Skip.passes_bracket rfl (fun _ _ => rfl) items body
  | object keys _ body ih =>
      exact Skip.passes_bracket rfl (fun _ _ => rfl) (Skip.passesIn_members keys ih) body

/-- Skipping takes the text of a well-formed value. -/
theorem WellFormed.readsBack {text : List Char} (wellFormed : WellFormed text) :
    ReadsBack skip text () where
  opens := wellFormed.passes.opens
  run gap rest blank delimited := by
    show Skip.goOn (.value []) _ = _
    rw [Skip.goOn_append blank, wellFormed.passes.value [] rest delimited]
    rfl

end NodeDecl.Json
