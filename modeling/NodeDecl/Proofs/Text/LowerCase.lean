import NodeDecl.Proofs.Model.Identifier
import NodeDecl.Text.LowerCase

/-!
# Lower case of identifiers

On ASCII characters the lower case is the usual one, so a name whose first letter is put
in lower case is an identifier if it was one before.  Two identifiers become the same name
by it only if one begins with a capital and the other with the small letter to it.
-/

namespace NodeDecl

namespace Text

/-- What holds of the first 128 characters holds of all ASCII characters. -/
theorem of_ascii {p : Char → Prop} (all : ∀ code : Fin 128, p (Char.ofNat code.val)) {c : Char}
    (ascii : c.toNat < 128) : p c := by
  have this := all ⟨c.toNat, ascii⟩
  rwa [Char.ofNat_toNat] at this

/-- The run of the letters from A to Z. -/
def capitals : CaseRun :=
  ⟨0x41, 0x5A, 1, 32⟩

/-- Only the first run has ASCII characters in it. -/
theorem caseRuns_eq : ∃ rest, caseRuns = capitals :: rest ∧ ∀ run ∈ rest, 128 ≤ run.first :=
  ⟨_, rfl, by decide +kernel⟩

/-- On ASCII the lower case is the usual one. -/
theorem lowerCase_ascii {c : Char} (ascii : c.toNat < 128) : lowerCase c = [c.toLower] := by
  rcases caseRuns_eq with ⟨rest, runs, later⟩
  have notDotted : c ≠ '\u0130' := by
    rintro rfl
    contradiction
  have nothingLater : rest.find? (·.contains c.toNat) = none := by
    rw [List.find?_eq_none]
    intro run member contained
    have first := later run member
    simp only [CaseRun.contains, Bool.and_eq_true, decide_eq_true_eq] at contained
    omega
  have letter := of_ascii
    (p := fun c => (if capitals.contains c.toNat then capitals.image c.toNat else c) = c.toLower)
    (by decide +kernel) ascii
  rw [lowerCase, if_neg notDotted, runs, List.find?_cons, nothingLater, ← letter]
  cases capitals.contains c.toNat <;> rfl

theorem ascii_of_isIdentifierStart {c : Char} (start : isIdentifierStart c = true) :
    c.toNat < 128 := by
  rcases isIdentifierStart_iff.1 start with ⟨-, upper⟩ | ⟨-, lower⟩ | rfl | rfl
  · exact Nat.lt_of_le_of_lt upper (by decide)
  · exact Nat.lt_of_le_of_lt lower (by decide)
  · decide
  · decide

theorem isIdentifierStart_toLower {c : Char} (start : isIdentifierStart c = true) :
    isIdentifierStart c.toLower = true :=
  of_ascii (p := fun c => isIdentifierStart c = true → isIdentifierStart c.toLower = true)
    (by decide +kernel) (ascii_of_isIdentifierStart start) start

/-- Of an identifier the first letter is put in lower case. -/
theorem toList_lowerFirst {name : String} (identifier : isIdentifier name = true) :
    ∃ c rest, name.toList = c :: rest ∧ isIdentifierStart c = true ∧
      (lowerFirst name).toList = c.toLower :: rest := by
  rw [isIdentifier] at identifier
  cases chars : name.toList with
  | nil =>
      rw [chars] at identifier
      contradiction
  | cons c rest =>
      simp only [chars, Bool.and_eq_true] at identifier
      refine ⟨c, rest, rfl, identifier.1, ?_⟩
      simp only [lowerFirst, chars, lowerCase_ascii (ascii_of_isIdentifierStart identifier.1),
        List.singleton_append, String.toList_ofList]

/-- The lower case of an identifier is an identifier. -/
theorem isIdentifier_lowerFirst {name : String} (identifier : isIdentifier name = true) :
    isIdentifier (lowerFirst name) = true := by
  obtain ⟨c, rest, chars, start, lower⟩ := toList_lowerFirst identifier
  rw [isIdentifier, chars, Bool.and_eq_true] at identifier
  rw [isIdentifier, lower, Bool.and_eq_true]
  exact ⟨isIdentifierStart_toLower start, identifier.2⟩

/-! ## Names that become one -/

/-- Two names of which one begins with a capital from A to Z and the other with the small
letter to it, and that are equal behind. -/
def DifferInCase (left right : String) : Prop :=
  ∃ capital rest, capital.isUpper = true ∧
    (left.toList = capital :: rest ∧ right.toList = capital.toLower :: rest ∨
      left.toList = capital.toLower :: rest ∧ right.toList = capital :: rest)

/-- Only capitals have another character as their lower case. -/
theorem toLower_eq_self {c : Char} (small : c.isUpper = false) : c.toLower = c :=
  dif_neg (of_decide_eq_false small)

/-- The small letter to a capital stands 32 places behind it, and is no capital. -/
theorem toLower_of_isUpper {c : Char} (capital : c.isUpper = true) :
    c.toLower.toNat = c.toNat + 32 ∧ c.toLower.isUpper = false := by
  have ascii : c.toNat < 128 := Nat.lt_of_le_of_lt (of_decide_eq_true capital).2 (by decide)
  exact of_ascii (p := fun c => c.isUpper = true →
    c.toLower.toNat = c.toNat + 32 ∧ c.toLower.isUpper = false) (by decide +kernel) ascii capital

/-- Capitals differ in their small letters. -/
theorem toLower_inj_of_isUpper {c d : Char} (capital : c.isUpper = true)
    (capital' : d.isUpper = true) (equal : c.toLower = d.toLower) : c = d := by
  have codes := congrArg Char.toNat equal
  rw [(toLower_of_isUpper capital).1, (toLower_of_isUpper capital').1] at codes
  rw [← Char.ofNat_toNat c, Nat.add_right_cancel codes, Char.ofNat_toNat]

/-- No capital is a small letter. -/
theorem ne_toLower_of_isUpper {c d : Char} (capital : c.isUpper = true)
    (capital' : d.isUpper = true) : c ≠ d.toLower := by
  intro equal
  rw [equal, (toLower_of_isUpper capital').2] at capital
  contradiction

/-- Two characters have the same lower case if one of them is the lower case of the other. -/
theorem toLower_eq_toLower_iff {c d : Char} (different : c ≠ d) :
    c.toLower = d.toLower ↔
      (c.isUpper = true ∧ d = c.toLower) ∨ (d.isUpper = true ∧ c = d.toLower) := by
  cases left : c.isUpper with
  | true =>
      cases right : d.isUpper with
      | true =>
          have distinct := mt (toLower_inj_of_isUpper left right) different
          simp [distinct, ne_toLower_of_isUpper left right, ne_toLower_of_isUpper right left]
      | false => simp [toLower_eq_self right, eq_comm]
  | false =>
      cases right : d.isUpper with
      | true => simp [toLower_eq_self left]
      | false => simp [toLower_eq_self left, toLower_eq_self right, different]

/-- Two identifiers have the same lower case exactly if they differ in case. -/
theorem lowerFirst_eq_iff {name other : String} (identifier : isIdentifier name = true)
    (identifier' : isIdentifier other = true) (different : name ≠ other) :
    lowerFirst name = lowerFirst other ↔ DifferInCase name other := by
  obtain ⟨c, rest, chars, -, lower⟩ := toList_lowerFirst identifier
  obtain ⟨d, rest', chars', -, lower'⟩ := toList_lowerFirst identifier'
  have distinct : c = d → rest ≠ rest' := by
    rintro rfl rfl
    exact different (String.toList_inj.1 (chars.trans chars'.symm))
  rw [← String.toList_inj, lower, lower', List.cons.injEq]
  constructor
  · rintro ⟨first, rfl⟩
    rcases (toLower_eq_toLower_iff fun same => distinct same rfl).1 first with
      ⟨capital, rfl⟩ | ⟨capital, rfl⟩
    · exact ⟨c, rest, capital, .inl ⟨chars, chars'⟩⟩
    · exact ⟨d, rest, capital, .inr ⟨chars, chars'⟩⟩
  · rintro ⟨capital, behind, isCapital, given⟩
    have small : capital.toLower.toLower = capital.toLower :=
      toLower_eq_self (toLower_of_isUpper isCapital).2
    simp only [chars, chars', List.cons.injEq] at given
    rcases given with ⟨⟨rfl, rfl⟩, rfl, rfl⟩ | ⟨⟨rfl, rfl⟩, rfl, rfl⟩
    · exact ⟨small.symm, rfl⟩
    · exact ⟨small, rfl⟩

end Text

end NodeDecl
