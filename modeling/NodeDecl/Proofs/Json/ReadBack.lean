import Mathlib.Data.List.Forall2
import NodeDecl.Json.Document
import NodeDecl.Proofs.Json.Integers
import NodeDecl.Proofs.Json.Strings

/-!
# Reading back what was written

A reader reads a text back as a value if it takes exactly that text off the front of
whatever may follow, whatever blanks stand in front.  Each way of making readers from
others keeps this law, and `Gathers` states it for objects member by member.
-/

namespace NodeDecl.Json

variable {α β σ : Type}

/-! ## Documents -/

/-- A text is accepted as the value at its front. -/
theorem parse_eq_ok_iff {reader : Nat → Reader α} {text : String} {value : α} :
    parse reader text = .ok value ↔
      ∃ rest, (reader nestingLimit).run text.toList = .ok (value, rest) := by
  rw [parse]
  cases (reader nestingLimit).run text.toList with
  | ok result => simp [Prod.ext_iff]
  | error failure => simp

theorem mapError_eq_ok {ε δ : Type} {outcome : Except ε α} {wrap : ε → δ} {value : α} :
    outcome.mapError wrap = .ok value ↔ outcome = .ok value := by
  cases outcome with
  | ok found => simp [Except.mapError]
  | error failure => simp [Except.mapError]

/-! ## Readers -/

/-- A reader takes a text, up to a delimiter, for a value. -/
structure ReadsBack (reader : Reader α) (text : List Char) (value : α) : Prop where
  opens : Opens text
  run : ∀ gap rest, Blank gap → Delimited rest →
    reader.run (gap ++ (text ++ rest)) = .ok (value, rest)

namespace ReadsBack

variable {reader : Reader α} {text : List Char} {value : α}

/-- Without blanks in front. -/
theorem run_append (reads : ReadsBack reader text value) {rest : List Char}
    (delimited : Delimited rest) : reader.run (text ++ rest) = .ok (value, rest) :=
  reads.run [] rest blank_nil delimited

theorem map (reads : ReadsBack reader text value) (change : α → β) :
    ReadsBack (reader.map change) text (change value) where
  opens := reads.opens
  run gap rest blank delimited := by
    rw [Reader.map]
    simp only [reads.run gap rest blank delimited]

/-- A document is read back, with blanks in front and anything behind that may stand
there. -/
theorem parse {reader : Nat → Reader α} (reads : ReadsBack (reader nestingLimit) text value)
    {before after : List Char} (blank : Blank before) (delimited : Delimited after) :
    Json.parse reader (String.ofList (before ++ (text ++ after))) = .ok value := by
  rw [Json.parse, String.toList_ofList, reads.run before after blank delimited]

end ReadsBack

/-! ## Scalars -/

/-- A text that is read as a scalar, up to a delimiter. -/
structure Denotes (text : List Char) (value : Value) : Prop where
  opens : ∃ c behind, text = c :: behind ∧ isDelimiter c = false ∧ isBracket c = false
  scalar : ∀ rest, Delimited rest → scalar? (text ++ rest) = some (.ok (value, rest))

theorem denotes_null : Denotes "null".toList .null where
  opens := ⟨'n', ['u', 'l', 'l'], rfl, rfl, rfl⟩
  scalar _ _ := rfl

theorem denotes_true : Denotes "true".toList (.bool true) where
  opens := ⟨'t', ['r', 'u', 'e'], rfl, rfl, rfl⟩
  scalar _ _ := rfl

theorem denotes_false : Denotes "false".toList (.bool false) where
  opens := ⟨'f', ['a', 'l', 's', 'e'], rfl, rfl, rfl⟩
  scalar _ _ := rfl

theorem denotes_bool (value : Bool) : Denotes (Value.bool value).compact (.bool value) := by
  cases value with
  | true => exact denotes_true
  | false => exact denotes_false

/-- A string is read as that string, however it is written. -/
theorem StringText.denotes {string : String} {text : List Char}
    (spells : StringText string text) : Denotes text (.string string) := by
  obtain ⟨chars⟩ := spells
  constructor
  · exact ⟨'"', _, rfl, rfl, rfl⟩
  · intro rest _
    rw [List.cons_append, scalar?, stringBody_charsText chars]
    rfl

/-- A digit does not look like anything else. -/
theorem ne_of_isDigit {c other : Char} (digit : c.isDigit = true) (none : other.isDigit = false) :
    c ≠ other := by
  rintro rfl
  rw [digit] at none
  contradiction

theorem scalar?_digit {c : Char} (digit : c.isDigit = true) (behind : List Char) :
    scalar? (c :: behind) = some (Outcome.map .number (number false (c :: behind))) := by
  rw [scalar?, if_pos digit]
  all_goals exact ne_of_isDigit digit rfl

theorem isBracket_of_isDigit {c : Char} (digit : c.isDigit = true) : isBracket c = false := by
  rw [isBracket, Bool.or_eq_false_iff]
  exact ⟨decide_eq_false (ne_of_isDigit digit rfl), decide_eq_false (ne_of_isDigit digit rfl)⟩

theorem isDelimiter_of_isDigit {c : Char} (digit : c.isDigit = true) :
    isDelimiter c = false := by
  cases delimiter : isDelimiter c with
  | false => rfl
  | true =>
      rw [not_isDigit_of_delimiter delimiter] at digit
      contradiction

/-- The digits of a natural number are read as that number. -/
theorem denotes_natural {value : Nat} (bounded : value < significandBound) :
    Denotes (Nat.toDigits 10 value) (.number (.integer value)) := by
  obtain ⟨c, others, equal⟩ : ∃ c others, Nat.toDigits 10 value = c :: others :=
    List.exists_cons_of_ne_nil Nat.toDigits_ne_nil
  have digit : c.isDigit = true :=
    isDigit_of_mem_toDigits (equal ▸ List.mem_cons_self)
  constructor
  · exact ⟨c, others, equal, isDelimiter_of_isDigit digit, isBracket_of_isDigit digit⟩
  · intro rest delimited
    rw [equal, List.cons_append, scalar?_digit digit, ← List.cons_append, ← equal,
      number_natural bounded delimited]
    rfl

/-- An integer that fits is read back. -/
theorem denotes_integer {value : Int} (fits : Fits value) :
    Denotes (Number.integer value).text (.number (.integer value)) := by
  cases value with
  | ofNat value =>
      rw [Int.ofNat_eq_natCast, Number.text_natural]
      exact denotes_natural (Int.ofNat_lt.1 fits.2)
  | negSucc value =>
      have bounded : value + 1 ≤ greatestNegative := by
        have least := fits.1
        rw [Int.negSucc_eq] at least
        omega
      rw [Number.text_negative]
      constructor
      · exact ⟨'-', _, rfl, rfl, rfl⟩
      · intro rest delimited
        rw [List.cons_append, scalar?, number_negative (Nat.succ_pos value) bounded delimited]
        rfl

namespace Denotes

variable {text : List Char} {value : Value}

/-- In front of a scalar all blanks are dropped. -/
theorem dropBlank_eq (denotes : Denotes text value) {gap : List Char} (blank : Blank gap)
    (rest : List Char) : dropBlank (gap ++ (text ++ rest)) = text ++ rest := by
  rcases denotes.opens with ⟨c, behind, rfl, opens, -⟩
  rw [dropBlank_append blank, List.cons_append, dropBlank_cons (isBlank_of_opens opens)]

theorem toOpens (denotes : Denotes text value) : Opens text := by
  rcases denotes.opens with ⟨c, behind, equal, opens, -⟩
  exact ⟨c, behind, equal, opens⟩

/-- A scalar is read where a scalar of its kind is expected. -/
theorem readScalar (denotes : Denotes text value) (expected : String)
    {pick : Value → Option α} {picked : α} (picks : pick value = some picked) :
    ReadsBack (Json.readScalar expected pick) text picked where
  opens := denotes.toOpens
  run gap rest blank delimited := by
    rw [Json.readScalar]
    simp only [denotes.dropBlank_eq blank, denotes.scalar rest delimited, picks]

/-- A scalar is read where anything may stand. -/
theorem dispatch (denotes : Denotes text value) (body? : Option (Char → Reader Value)) :
    ReadsBack (.dispatch isBracket body? readAnyScalar) text value where
  opens := denotes.toOpens
  run gap rest blank delimited := by
    have front := denotes.dropBlank_eq blank rest
    have scalar := denotes.scalar rest delimited
    rcases denotes.opens with ⟨c, behind, rfl, -, other⟩
    rw [List.cons_append] at front scalar
    rw [Reader.dispatch]
    simp only [List.cons_append, front, other, Bool.false_eq_true, if_false, readAnyScalar,
      scalar]

end Denotes

/-- A string is read back where a string is expected. -/
theorem StringText.readString {string : String} {text : List Char}
    (spells : StringText string text) : ReadsBack Json.readString text string :=
  spells.denotes.readScalar "a string" rfl

/-- A truth value is read back where one is expected. -/
theorem readBool_compact (value : Bool) : ReadsBack readBool (Value.bool value).compact value :=
  (denotes_bool value).readScalar "a boolean" rfl

end NodeDecl.Json
