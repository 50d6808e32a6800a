import NodeDecl.Proofs.Json.Integers
import NodeDecl.Proofs.Json.Strings
import NodeDecl.Proofs.Text.Cutting
import NodeDecl.Proofs.TypeExpr.Literals
import NodeDecl.Proofs.TypeExpr.Resolution

/-!
# Unions of literals are known from their texts

Literals are written in two ways, which differ in the quotes and escapes of strings.  Either
way tells where a literal ends: a string at its quote, and anything else where a blank
follows.  So a string cannot pass for another literal, nor for the separator of a union.
-/

namespace NodeDecl

open Json (Value)

/-! ## Words -/

namespace Json.Value

/-- Null, truth values and integers, which are written as words. -/
inductive IsWord : Value → Prop
  | null : IsWord .null
  | bool (value : Bool) : IsWord (.bool value)
  | integer (value : Int) : IsWord (.number (.integer value))

variable {a b : Value} {c : Char}

theorem IsWord.mem_compact (isWord : IsWord a) (member : c ∈ a.compact) :
    c = '-' ∨ c.isAlphanum = true := by
  have ofLetters : ∀ {word : List Char}, word.all Char.isAlphanum = true → c ∈ word →
      c = '-' ∨ c.isAlphanum = true :=
    fun all inside => .inr (List.all_eq_true.1 all c inside)
  cases isWord with
  | null => exact ofLetters rfl member
  | bool value =>
      cases value with
      | true => exact ofLetters rfl member
      | false => exact ofLetters rfl member
  | integer value =>
      refine (Number.mem_text_integer member).imp_right fun digit => ?_
      rw [Char.isAlphanum, digit, Bool.or_true]

/-- Neither blanks nor quotes stand in a word. -/
theorem IsWord.apart (isWord : IsWord a) (member : c ∈ a.compact) :
    c ≠ ' ' ∧ c ∉ Literal.quotes := by
  rcases isWord.mem_compact member with rfl | alphanumeric
  · exact ⟨by decide, by decide⟩
  · constructor
    · rintro rfl
      contradiction
    · intro quote
      rcases Literal.mem_quotes_iff.1 quote with rfl | rfl | rfl <;> contradiction

/-- Words are known from their texts. -/
theorem IsWord.compact_inj (aWord : IsWord a) (bWord : IsWord b)
    (equal : a.compact = b.compact) : a = b := by
  have apart : ∀ {letter : Char} {others : List Char} {value : Int}, letter ≠ '-' →
      letter.isDigit = false → (number (.integer value)).compact ≠ letter :: others := by
    intro letter others value notMinus notDigit same
    rcases Number.mem_text_integer (same ▸ List.mem_cons_self) with minus | digit
    · exact notMinus minus
    · rw [notDigit] at digit
      contradiction
  cases aWord with
  | null =>
      cases bWord with
      | null => rfl
      | bool value => cases value <;> contradiction
      | integer value => exact absurd equal.symm (apart (by decide) rfl)
  | bool value =>
      cases bWord with
      | null => cases value <;> contradiction
      | bool value' => cases value <;> cases value' <;> first | rfl | contradiction
      | integer value' => cases value <;> exact absurd equal.symm (apart (by decide) rfl)
  | integer value =>
      cases bWord with
      | null => exact absurd equal (apart (by decide) rfl)
      | bool value' => cases value' <;> exact absurd equal (apart (by decide) rfl)
      | integer value' => rw [Number.text_integer_inj equal]

end Json.Value

/-! ## Literals -/

/-- Null, truth values, integers and strings. -/
inductive Json.Value.IsPlain : Value → Prop
  | word {value : Value} (isWord : value.IsWord) : IsPlain value
  | string (value : String) : IsPlain (.string value)

/-- A way of writing literals: words as in JSON, and strings between quotes such that each
tells where it ends. -/
structure WritesLiterals (write : Value → String) : Prop where
  word : ∀ {value : Value}, value.IsWord → (write value).toList = value.compact
  quoted : ∀ value : String, ∃ quote ∈ Literal.quotes,
    (write (.string value)).toList.head? = some quote
  string_inj : ∀ {value value' : String} {rest rest' : List Char},
    (write (.string value)).toList ++ rest = (write (.string value')).toList ++ rest' →
      value = value' ∧ rest = rest'

/-- The literals of a bare choice. -/
theorem writesLiterals_text : WritesLiterals Literal.text where
  word := by
    intro value isWord
    cases isWord <;> exact String.toList_ofList
  quoted value := by
    refine ⟨_, Literal.quoteFor_mem value.toList, ?_⟩
    rw [← List.append_nil (Literal.text _).toList, Literal.toList_text_string, List.head?_cons]
  string_inj := Literal.text_string_inj

theorem stringBody_toText (value : String) (rest : List Char) :
    Json.stringBody.run ((Value.string value).toText.toList ++ rest).tail = .ok (value, rest) := by
  rw [Value.toText, String.toList_ofList]
  exact Json.stringBody_charsText (Json.charsText_flatMap_escape value.toList) rest

/-- The literals of a choice of strings. -/
theorem writesLiterals_toText : WritesLiterals Value.toText where
  word _ := String.toList_ofList
  quoted value := ⟨'"', by decide, by rw [Value.toText, String.toList_ofList]; rfl⟩
  string_inj := by
    intro value value' rest rest' equal
    have read := stringBody_toText value rest
    rw [equal, stringBody_toText value' rest', Except.ok.injEq, Prod.mk.injEq] at read
    exact ⟨read.1.symm, read.2.symm⟩

namespace WritesLiterals

variable {write : Value → String} {word : Value} {rest rest' : List Char}

/-- A word does not begin like a string. -/
theorem apart (writes : WritesLiterals write) (isWord : word.IsWord) (ends : CutBy (· ≠ ' ') rest)
    (value : String) :
    (write word).toList ++ rest ≠ (write (.string value)).toList ++ rest' := by
  intro equal
  obtain ⟨quote, known, found⟩ := writes.quoted value
  have first : (word.compact ++ rest).head? = some quote := by
    rw [← writes.word isWord, equal, List.head?_append, found, Option.some_or]
  cases text : word.compact with
  | nil =>
      rw [text] at first
      have blank : quote = ' ' := by simpa using ends quote first
      subst blank
      contradiction
  | cons c others =>
      rw [text] at first
      cases first
      exact (isWord.apart (text ▸ List.mem_cons_self)).2 known

/-- Each literal tells where it ends, if a blank stands there. -/
theorem endsBefore (writes : WritesLiterals write) :
    EndsBefore ' ' Value.IsPlain fun literal => (write literal).toList := by
  intro a b aPlain bPlain back back' ends ends' equal
  cases aPlain with
  | word aWord =>
      cases bPlain with
      | word bWord =>
          -- A word has no end of its own, but no blank stands in it.
          have inside : ∀ {word : Value}, word.IsWord →
              ∀ c ∈ (write word).toList, decide (c ≠ ' ') = true := by
            intro word isWord c member
            rw [writes.word isWord] at member
            exact decide_eq_true (isWord.apart member).1
          obtain ⟨same, rests⟩ := cut_inj (inside aWord) (inside bWord) ends ends' equal
          rw [writes.word aWord, writes.word bWord] at same
          exact ⟨aWord.compact_inj bWord same, rests⟩
      | string value => exact absurd equal (writes.apart aWord ends value)
  | string value =>
      cases bPlain with
      | word bWord => exact absurd equal.symm (writes.apart bWord ends' value)
      | string value' =>
          obtain ⟨rfl, rests⟩ := writes.string_inj equal
          exact ⟨rfl, rests⟩

end WritesLiterals

/-! ## Unions -/

namespace TypeExpr

/-- The text of a union is that of its arms, even if there is only one. -/
theorem render_ofArms (suffix : String) (arms : List TypeExpr) :
    (ofArms arms).render suffix = " | ".intercalate (arms.map (render suffix)) := by
  match arms with
  | [] => rfl
  | [arm] => rfl
  | first :: second :: rest =>
      exact congrArg " | ".intercalate (renderArms_eq_map suffix (first :: second :: rest))

variable {write : Value → String} {left right : List Value}

/-- The union of some literals, as they are written. -/
def ofLiterals (write : Value → String) (literals : List Value) : TypeExpr :=
  .ofArms (literals.map fun literal => .literal (write literal))

/-- A union of literals is known from its text. -/
theorem render_ofLiterals_iff (writes : WritesLiterals write) (leftGiven : left ≠ [])
    (rightGiven : right ≠ []) (leftPlain : ∀ literal ∈ left, literal.IsPlain)
    (rightPlain : ∀ literal ∈ right, literal.IsPlain) (suffix : String) :
    (ofLiterals write left).render suffix = (ofLiterals write right).render suffix ↔
      left = right := by
  have arms : ∀ literals : List Value, ((ofLiterals write literals).render suffix).toList =
      " | ".toList.intercalate (literals.map fun literal => (write literal).toList) := by
    intro literals
    rw [ofLiterals, render_ofArms, String.toList_intercalate, List.map_map, List.map_map]
    rfl
  constructor
  · intro equal
    have lists := congrArg String.toList equal
    rw [arms, arms] at lists
    exact intercalate_inj writes.endsBefore leftPlain rightPlain leftGiven rightGiven lists
  · rintro rfl
    rfl

end TypeExpr

namespace Validator

variable {left right : List Value}

/-- A validator that lists literals stands for their union. -/
theorem Lists.resolve_eq_ofLiterals {validator : Validator} {write : Value → String}
    {literals : List Value}
    (lists : Lists validator (literals.map fun literal => .literal (write literal)))
    (given : literals ≠ []) : validator.resolve = .ok (.ofLiterals write literals) := by
  rw [lists.resolve_eq, TypeExpr.ofLiterals]
  exact alternatives?_of_ne_nil validator (by simpa using given)

/-- Two choices among literals stand for types whose texts are the same exactly if the
literals are, and so do two choices among strings. -/
theorem render_literals_iff (leftGiven : left ≠ []) (rightGiven : right ≠ [])
    (leftPlain : ∀ literal ∈ left, literal.IsPlain)
    (rightPlain : ∀ literal ∈ right, literal.IsPlain) (suffix : String) :
    (∃ leftType rightType, (oneOfLiterals left).resolve = .ok leftType ∧
      (oneOfLiterals right).resolve = .ok rightType ∧
      (leftType.render suffix = rightType.render suffix ↔ left = right)) ∧
    ∃ leftType rightType, (stringOf left).resolve = .ok leftType ∧
      (stringOf right).resolve = .ok rightType ∧
      (leftType.render suffix = rightType.render suffix ↔ left = right) := by
  constructor
  · refine ⟨_, _, (Lists.oneOfLiterals left).resolve_eq_ofLiterals leftGiven,
      (Lists.oneOfLiterals right).resolve_eq_ofLiterals rightGiven, ?_⟩
    exact TypeExpr.render_ofLiterals_iff writesLiterals_text leftGiven rightGiven leftPlain
      rightPlain suffix
  · refine ⟨_, _, (Lists.string left).resolve_eq_ofLiterals leftGiven,
      (Lists.string right).resolve_eq_ofLiterals rightGiven, ?_⟩
    exact TypeExpr.render_ofLiterals_iff writesLiterals_toText leftGiven rightGiven leftPlain
      rightPlain suffix

/-- A string with a separator between quotes is told from two strings. -/
theorem render_literals_of_separator :
    (∃ leftType rightType,
      (oneOfLiterals [.string "a' | 'b"]).resolve = .ok leftType ∧
      (oneOfLiterals [.string "a", .string "b"]).resolve = .ok rightType ∧
      (leftType.render "Node" = rightType.render "Node" ↔
        [Value.string "a' | 'b"] = [.string "a", .string "b"])) ∧
    ∃ leftType rightType,
      (stringOf [.string "a' | 'b"]).resolve = .ok leftType ∧
      (stringOf [.string "a", .string "b"]).resolve = .ok rightType ∧
      (leftType.render "Node" = rightType.render "Node" ↔
        [Value.string "a' | 'b"] = [.string "a", .string "b"]) := by
  have leftPlain : ∀ literal ∈ [Value.string "a' | 'b"], literal.IsPlain := by
    simpa using Value.IsPlain.string _
  have rightPlain : ∀ literal ∈ [Value.string "a", .string "b"], literal.IsPlain := by
    simpa using ⟨Value.IsPlain.string _, Value.IsPlain.string _⟩
  exact render_literals_iff (List.cons_ne_nil _ _) (List.cons_ne_nil _ _) leftPlain rightPlain
    "Node"

end Validator

end NodeDecl
