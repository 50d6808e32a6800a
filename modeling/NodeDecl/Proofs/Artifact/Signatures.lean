import NodeDecl.Proofs.Text.Classes
import NodeDecl.Proofs.Text.Cutting
import NodeDecl.Proofs.Text.LowerCase

/-!
# Reading signatures

Behind its constructor, the class of a stub is a list of signatures: builders, tests,
assertions, conversions and dispatchers.  The types in a signature end in the suffix of the
configuration.  The suffix may be any text and the parameters of a builder too, so it takes
an argument that the parts of a line can be told apart: a line is read as a signature in at
most one way.  The builder of a kind `IsLeaf` begins as the test for `Leaf` does, but it
cannot end as that test does, whatever its parameters and the suffix are.
-/

namespace NodeDecl

namespace Stub

/-! ## Signatures -/

/-- A signature of the class, with the names of types without their suffix. -/
inductive Signature where
  /-- The builder of a kind, with its parameters as they are written. -/
  | builder (kind parameters : String)
  /-- The test for a name, on values of a type. -/
  | test (name value : String)
  /-- The assertion of a name, on values of a type. -/
  | assertion (name value : String)
  /-- The conversion to a name, from values of a type to a type. -/
  | conversion (name value result : String)
  /-- The dispatcher of a group, on nodes of a type and with a switcher. -/
  | dispatcher (group node switcher : String)
deriving DecidableEq, Repr

namespace Signature

/-- The name of the method. -/
def method : Signature → String
  | .builder kind _ => Text.lowerFirst kind
  | .test name _ => "is" ++ name
  | .assertion name _ => "assert" ++ name
  | .conversion name _ _ => "as" ++ name
  | .dispatcher group _ _ => "switch" ++ group

/-- What stands behind the name of the method. -/
def rest (suffix : String) : Signature → String
  | .builder kind parameters => "(" ++ parameters ++ "): " ++ kind ++ suffix ++ ";"
  | .test _ value => "(value: " ++ value ++ suffix ++ ", opts?: Object): boolean;"
  | .assertion _ value => "(value: " ++ value ++ suffix ++ ", opts?: Object): mixed;"
  | .conversion _ value result =>
      "(value: " ++ value ++ suffix ++ ", opts?: Object): " ++ result ++ suffix ++ " | void;"
  | .dispatcher _ node switcher =>
      "<T>(node: " ++ node ++ suffix ++ ", switcher: " ++ switcher ++ "<T>): T;"

/-- The text of a signature. -/
def text (suffix : String) (signature : Signature) : String :=
  signature.method ++ signature.rest suffix

/-- The type names in a signature, without those in the parameters of a builder. -/
def types : Signature → List String
  | .builder kind _ => [kind]
  | .test _ value => [value]
  | .assertion _ value => [value]
  | .conversion _ value result => [value, result]
  | .dispatcher _ node _ => [node]

/-- The names that the method is named after or that stand for an interface. -/
def labels : Signature → List String
  | .builder _ _ => []
  | .test name _ => [name]
  | .assertion name _ => [name]
  | .conversion name _ _ => [name]
  | .dispatcher group _ switcher => [group, switcher]

/-- All names in a signature are identifiers. -/
def Named (signature : Signature) : Prop :=
  ∀ name ∈ signature.labels ++ signature.types, isIdentifier name = true

/-- A line of a class that is read as a signature. -/
structure ReadFrom (suffix line : String) (signature : Signature) : Prop where
  named : signature.Named
  line_eq : line = "  " ++ signature.text suffix

/-! ## One reading -/

variable {suffix : String} {a b : Signature}

theorem isIdentifier_method (named : a.Named) : isIdentifier a.method = true := by
  cases a with
  | builder kind parameters => exact Text.isIdentifier_lowerFirst (named kind (by simp [types]))
  | test name value => exact isIdentifier_append (by decide) (named name (by simp [labels]))
  | assertion name value => exact isIdentifier_append (by decide) (named name (by simp [labels]))
  | conversion name value result =>
      exact isIdentifier_append (by decide) (named name (by simp [labels]))
  | dispatcher group node switcher =>
      exact isIdentifier_append (by decide) (named group (by simp [labels]))

/-- Behind the name of a method comes a bracket. -/
theorem rest_begins (suffix : String) (signature : Signature) :
    ∃ bracket ∈ ['(', '<'], ∃ inner, (signature.rest suffix).toList = bracket :: inner := by
  cases signature with
  | dispatcher => exact ⟨'<', by simp, _, by simp only [rest, String.toList_append]; rfl⟩
  | _ => exact ⟨'(', by simp, _, by simp only [rest, String.toList_append]; rfl⟩

/-- Signatures with one text agree on the name of the method and on what stands behind it. -/
theorem parts_eq (first : a.Named) (second : b.Named) (equal : a.text suffix = b.text suffix) :
    a.method = b.method ∧ a.rest suffix = b.rest suffix := by
  obtain ⟨bracket, opens, inner, begins⟩ := rest_begins suffix a
  obtain ⟨bracket', opens', inner', begins'⟩ := rest_begins suffix b
  rw [text, text, ← String.toList_inj, String.toList_append, String.toList_append, begins,
    begins'] at equal
  have parts := cut_inj (isIdentifierRest_of_mem (isIdentifier_method first))
    (isIdentifierRest_of_mem (isIdentifier_method second))
    (cutBy_cons (Text.isIdentifierRest_bracket _ opens))
    (cutBy_cons (Text.isIdentifierRest_bracket _ opens')) equal
  rw [← begins, ← begins'] at parts
  exact ⟨String.toList_inj.1 parts.1, String.toList_inj.1 parts.2⟩

/-- Behind its method, a builder does not end as a query does: the name of the kind begins
with the same letter as the method, and that letter is not in what the query ends with. -/
theorem builder_rest_ne {kind name front back : String} {c : Char} (parameters : String)
    (identifier : isIdentifier kind = true) (method : Text.lowerFirst kind = name)
    (begins : name.toList.head? = some c) (absent : c ∉ back.toList.map Char.toLower)
    (spaced : ' ' ∈ back.toList) :
    (builder kind parameters).rest suffix ≠ front ++ suffix ++ back := by
  obtain ⟨first, others, chars, -, lower⟩ := Text.toList_lowerFirst identifier
  rw [method] at lower
  rw [lower, List.head?_cons, Option.some_inj] at begins
  have notInBack : first ∉ back.toList := fun inBack =>
    absent (begins ▸ List.mem_map_of_mem inBack)
  have notInKind : ' ' ∉ kind.toList := fun inKind =>
    absurd (isIdentifierRest_of_mem identifier _ inKind) (by decide)
  intro equal
  have chars' : ("(" ++ parameters ++ "): ").toList ++ (kind.toList ++ suffix.toList ++ [';']) =
      front.toList ++ (suffix.toList ++ back.toList) := by
    simpa [rest] using congrArg String.toList equal
  have inKind : first ∈ kind.toList := by
    rw [chars]
    exact List.mem_cons_self
  exact ends_apart inKind notInBack spaced notInKind (by decide) chars'

/-- Builders with one text are the same: the method gives the kind but for the case of its
first letter, and so the number of characters that stand in front of the suffix. -/
theorem builder_inj {kind other parameters others : String} (first : isIdentifier kind = true)
    (second : isIdentifier other = true) (methods : Text.lowerFirst kind = Text.lowerFirst other)
    (rests : (builder kind parameters).rest suffix = (builder other others).rest suffix) :
    builder kind parameters = builder other others := by
  obtain ⟨c, tail, chars, -, lower⟩ := Text.toList_lowerFirst first
  obtain ⟨c', tail', chars', -, lower'⟩ := Text.toList_lowerFirst second
  have tails : tail = tail' := by
    rw [methods, lower'] at lower
    exact (List.cons.inj lower).2.symm
  rw [rest, rest, String.append_left_inj, String.append_left_inj] at rests
  have lists := congrArg String.toList rests
  rw [String.toList_append, String.toList_append (t := other)] at lists
  obtain ⟨fronts, kinds⟩ := List.append_inj' lists (by simp [chars, chars', tails])
  rw [String.toList_inj, String.append_left_inj, String.append_right_inj] at fronts
  rw [String.toList_inj.1 kinds, fronts]

/-- Only a builder has the text of a builder. -/
theorem eq_of_builder_text_eq {kind parameters : String} (first : (builder kind parameters).Named)
    (second : b.Named) (equal : (builder kind parameters).text suffix = b.text suffix) :
    builder kind parameters = b := by
  obtain ⟨methods, rests⟩ := parts_eq first second equal
  have identifier := first kind (by simp [types])
  -- The method of a builder may be that of a test, an assertion or a conversion, so only
  -- what stands behind it tells them apart.
  cases b with
  | builder other others =>
      exact builder_inj identifier (second other (by simp [types])) methods rests
  | test name value =>
      have begins : ("is" ++ name).toList.head? = some 'i' := by simp
      exact absurd rests
        (builder_rest_ne parameters identifier methods begins (by decide) (by decide))
  | assertion name value =>
      have begins : ("assert" ++ name).toList.head? = some 'a' := by simp
      exact absurd rests
        (builder_rest_ne parameters identifier methods begins (by decide) (by decide))
  | conversion name value result =>
      have begins : ("as" ++ name).toList.head? = some 'a' := by simp
      exact absurd rests
        (builder_rest_ne parameters identifier methods begins (by decide) (by decide))
  | dispatcher group node switcher =>
      simp [rest, String.ext_iff] at rests

/-- Texts that end in an identifier behind a blank have the same identifier. -/
theorem last_name_inj {front front' separator name name' : String}
    (first : isIdentifier name = true) (second : isIdentifier name' = true)
    (spaced : separator.toList.getLast? = some ' ')
    (equal : front ++ separator ++ name = front' ++ separator ++ name') :
    front = front' ∧ name = name' := by
  obtain ⟨start, separated⟩ := List.getLast?_eq_some_iff.1 spaced
  have lists : (front.toList ++ start) ++ ' ' :: name.toList =
      (front'.toList ++ start) ++ ' ' :: name'.toList := by
    simpa [separated] using congrArg String.toList equal
  obtain ⟨fronts, names⟩ := cut_last_inj (isIdentifierRest_of_mem first)
    (isIdentifierRest_of_mem second) (by decide) lists
  exact ⟨String.toList_inj.1 (List.append_cancel_right fronts), String.toList_inj.1 names⟩

/-- An assertion and a conversion end differently. -/
theorem assertion_rest_ne (name value other others result : String) :
    (assertion name value).rest suffix ≠ (conversion other others result).rest suffix := by
  intro equal
  simpa [rest] using congrArg (fun text => text.toList.reverse) equal

/-- A text is that of at most one signature. -/
theorem text_injective (first : a.Named) (second : b.Named)
    (equal : a.text suffix = b.text suffix) : a = b := by
  obtain ⟨methods, rests⟩ := parts_eq first second equal
  cases a with
  | builder kind parameters => exact eq_of_builder_text_eq first second equal
  | test name value =>
      cases b with
      | builder => exact (eq_of_builder_text_eq second first equal.symm).symm
      | test other others =>
          rw [method, method, String.append_right_inj] at methods
          rw [rest, rest, String.append_left_inj, String.append_left_inj,
            String.append_right_inj] at rests
          rw [methods, rests]
      | assertion | conversion | dispatcher => simp [method, String.ext_iff] at methods
  | assertion name value =>
      cases b with
      | builder => exact (eq_of_builder_text_eq second first equal.symm).symm
      | assertion other others =>
          rw [method, method, String.append_right_inj] at methods
          rw [rest, rest, String.append_left_inj, String.append_left_inj,
            String.append_right_inj] at rests
          rw [methods, rests]
      | conversion => exact absurd rests (assertion_rest_ne _ _ _ _ _)
      | test | dispatcher => simp [method, String.ext_iff] at methods
  | conversion name value result =>
      cases b with
      | builder => exact (eq_of_builder_text_eq second first equal.symm).symm
      | assertion => exact absurd rests.symm (assertion_rest_ne _ _ _ _ _)
      | conversion other others result' =>
          rw [method, method, String.append_right_inj] at methods
          rw [rest, rest, String.append_left_inj, String.append_left_inj] at rests
          obtain ⟨fronts, results⟩ := last_name_inj (first result (by simp [types]))
            (second result' (by simp [types])) rfl rests
          rw [String.append_left_inj, String.append_right_inj] at fronts
          rw [methods, fronts, results]
      | test | dispatcher => simp [method, String.ext_iff] at methods
  | dispatcher group node switcher =>
      cases b with
      | builder => exact (eq_of_builder_text_eq second first equal.symm).symm
      | dispatcher other node' switcher' =>
          rw [method, method, String.append_right_inj] at methods
          rw [rest, rest, String.append_left_inj] at rests
          obtain ⟨fronts, switchers⟩ := last_name_inj (first switcher (by simp [labels]))
            (second switcher' (by simp [labels])) rfl rests
          rw [String.append_left_inj, String.append_right_inj] at fronts
          rw [methods, fronts, switchers]
      | test | assertion | conversion => simp [method, String.ext_iff] at methods

/-- A line is read as at most one signature. -/
theorem ReadFrom.unique {line : String} (first : ReadFrom suffix line a)
    (second : ReadFrom suffix line b) : a = b := by
  apply text_injective first.named second.named
  apply (String.append_right_inj "  ").1
  rw [← first.line_eq, ← second.line_eq]

end Signature

end Stub

end NodeDecl
