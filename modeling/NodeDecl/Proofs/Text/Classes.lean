import NodeDecl.Proofs.Layout.Lines
import NodeDecl.Proofs.Model.Identifier
import NodeDecl.Proofs.Text.Sections

/-!
# Reading classes

The methods of a class are read off its text: the lines between the one that opens the
class and the one that closes it are divided at the lines on which a method begins, a name
and a bracket at the depth of the body.  To a method belong the methods of its own object
that it calls.
-/

namespace NodeDecl.Text

/-! ## The reader -/

/-- Whether a line opens the declaration of a class. -/
def opensClass (line : String) : Bool :=
  "class ".toList.isPrefixOf line.toList || "declare class ".toList.isPrefixOf line.toList

/-- The lines inside of the first class of a text. -/
def classBody (text : String) : List String :=
  (((lines text).dropWhile fun line => !opensClass line).drop 1).takeWhile (· ≠ "\x7d")

/-- The identifier that some characters begin with, if one of some brackets follows. -/
def nameBefore? (brackets : List Char) (chars : List Char) : Option String :=
  let name := String.ofList (chars.takeWhile isIdentifierRest)
  if isIdentifier name && (chars.dropWhile isIdentifierRest).head?.any (brackets.contains ·) then
    some name
  else none

/-- The name of the method that begins on a line of a class. -/
def definedMethod? (line : String) : Option String :=
  (line.toList.dropPrefix? "  ".toList).bind (nameBefore? ['(', '<'])

/-- The method that some characters begin to call on the object itself. -/
def calledAt? (chars : List Char) : Option String :=
  (chars.dropPrefix? "this.".toList).bind (nameBefore? ['('])

/-- The methods that some characters call on the object itself. -/
def calls : List Char → List String
  | [] => []
  | c :: rest => (calledAt? (c :: rest)).toList ++ calls rest

/-- A method with the methods that it calls on its own object. -/
structure Method where
  name : String
  calls : List String
deriving DecidableEq, Repr

/-- The method of a name that is written on some lines. -/
def Method.ofLines (written : String × List String) : Method where
  name := written.1
  calls := written.2.flatMap fun line => Text.calls line.toList

/-- The methods of the first class of a text. -/
def methods (text : String) : List Method :=
  (sections definedMethod? (classBody text)).2.map .ofLines

/-! ## The lines of a class -/

/-- The body of a class stands between its opening and the first line that closes it. -/
theorem classBody_eq {text opening : String} {front body back : List String}
    (whole : lines text = front ++ opening :: (body ++ "\x7d" :: back))
    (before : ∀ line ∈ front, opensClass line = false) (opens : opensClass opening = true)
    (inside : ∀ line ∈ body, Layout.Inner line) : classBody text = body := by
  have skipped : (lines text).dropWhile (fun line => !opensClass line) =
      opening :: (body ++ "\x7d" :: back) := by
    rw [whole, List.dropWhile_append_of_pos (by simpa using before),
      List.dropWhile_cons_of_neg (by simp [opens])]
  have open_ : ∀ line ∈ body, decide (line ≠ "\x7d") = true := by
    intro line member
    apply decide_eq_true
    rintro rfl
    exact absurd (inside _ member '\x7d' rfl) (by decide)
  rw [classBody, skipped, List.drop_succ_cons, List.drop_zero,
    List.takeWhile_append_of_pos open_, List.takeWhile_cons_of_neg (by simp), List.append_nil]

/-- No class is opened on a line that is empty or set in. -/
theorem opensClass_of_inner {line : String} (inner : Layout.Inner line) :
    opensClass line = false := by
  rw [opensClass]
  cases chars : line.toList with
  | nil => rfl
  | cons c rest =>
      have space : c = ' ' := inner c (by rw [chars]; rfl)
      subst space
      rfl

/-- An identifier is on one line. -/
theorem oneLine_of_isIdentifier {name : String} (identifier : isIdentifier name = true) :
    OneLine name :=
  fun member => absurd (isIdentifierRest_of_mem identifier _ member) (by decide)

/-- What stands behind a character that ends every name does not matter to a name before
it. -/
theorem nameBefore?_append_cons {c : Char} (ends : isIdentifierRest c = false)
    (brackets front back : List Char) :
    nameBefore? brackets (front ++ c :: back) = nameBefore? brackets (front ++ [c]) := by
  have name : ∀ back : List Char, (front ++ c :: back).takeWhile isIdentifierRest =
      front.takeWhile isIdentifierRest := by
    intro back
    induction front with
    | nil => simp [ends]
    | cons d rest ih => by_cases inside : isIdentifierRest d <;> simp [inside, ih]
  have after : ∀ back : List Char, ((front ++ c :: back).dropWhile isIdentifierRest).head? =
      (front.dropWhile isIdentifierRest).head?.or (some c) := by
    intro back
    clear name
    induction front with
    | nil => simp [ends]
    | cons d rest ih => by_cases inside : isIdentifierRest d <;> simp [inside, ih]
  rw [nameBefore?, nameBefore?, name, name, after, after]

/-- An identifier in front of a bracket is read. -/
theorem nameBefore?_eq_some {name : String} (identifier : isIdentifier name = true)
    {brackets : List Char} {bracket : Char} (opens : bracket ∈ brackets)
    (ends : isIdentifierRest bracket = false) (rest : List Char) :
    nameBefore? brackets (name.toList ++ bracket :: rest) = some name := by
  have inside := isIdentifierRest_of_mem identifier
  rw [nameBefore?, List.takeWhile_append_of_pos inside, List.dropWhile_append_of_pos inside,
    List.takeWhile_cons_of_neg (by simp [ends]), List.dropWhile_cons_of_neg (by simp [ends]),
    List.append_nil, String.ofList_toList, identifier]
  simp [opens]

/-- There is no name in front of something that cannot stand inside of one. -/
theorem nameBefore?_eq_none {c : Char} (ends : isIdentifierRest c = false)
    (brackets rest : List Char) : nameBefore? brackets (c :: rest) = none := by
  rw [nameBefore?, List.takeWhile_cons_of_neg (by simp [ends])]
  rfl

theorem dropPrefix?_append (front back : List Char) :
    (front ++ back).dropPrefix? front = some back :=
  List.dropPrefix?_eq_some_iff.2 ⟨front, rfl, beq_self_eq_true _⟩

/-- The brackets behind the name of a method are not part of it. -/
theorem isIdentifierRest_bracket : ∀ c ∈ ['(', '<'], isIdentifierRest c = false := by
  rw [List.forall_mem_cons, List.forall_mem_singleton]
  exact ⟨by decide, by decide⟩

/-- Behind two characters of indentation, an identifier with a bracket begins a method. -/
theorem definedMethod?_eq_some {name line : String} {bracket : Char} {rest : List Char}
    (identifier : isIdentifier name = true) (opens : bracket ∈ ['(', '<'])
    (begins : line.toList = "  ".toList ++ (name.toList ++ bracket :: rest)) :
    definedMethod? line = some name := by
  rw [definedMethod?, begins, dropPrefix?_append, Option.bind_some,
    nameBefore?_eq_some identifier opens (isIdentifierRest_bracket bracket opens)]

/-- No method begins on a line that is set in deeper, or closes a method. -/
theorem definedMethod?_eq_none {line : String} {c : Char} {rest : List Char}
    (ends : isIdentifierRest c = false) (begins : line.toList = "  ".toList ++ c :: rest) :
    definedMethod? line = none := by
  rw [definedMethod?, begins, dropPrefix?_append, Option.bind_some, nameBefore?_eq_none ends]

/-! ## Calls -/

theorem dropPrefix?_append_cons {front back ahead : List Char} {c : Char} (other : c ∉ ahead) :
    (front ++ c :: back).dropPrefix? ahead = (front.dropPrefix? ahead).map (· ++ c :: back) := by
  induction ahead generalizing front with
  | nil => simp
  | cons d others ih =>
      rw [List.mem_cons, not_or] at other
      cases front with
      | nil => simp [List.dropPrefix?, other.1]
      | cons e rest =>
          rw [List.cons_append, List.dropPrefix?, List.dropPrefix?]
          split
          · exact ih other.2
          · rfl

/-- Characters that end every name, and are no dot, divide a text: calls stand before or
behind them. -/
theorem calls_append_cons {c : Char} (ends : isIdentifierRest c = false) (noDot : c ≠ '.')
    (front back : List Char) :
    calls (front ++ c :: back) = calls (front ++ [c]) ++ calls back := by
  have other : c ∉ "this.".toList := by
    intro member
    have letters : ("this.".toList.all fun d => isIdentifierRest d || d = '.') = true := by
      decide
    have inside := List.all_eq_true.1 letters c member
    simp [ends, noDot] at inside
  have same : ∀ front : List Char, calledAt? (front ++ c :: back) = calledAt? (front ++ [c]) := by
    intro front
    rw [calledAt?, calledAt?, dropPrefix?_append_cons other, dropPrefix?_append_cons other,
      Option.bind_map, Option.bind_map]
    exact Option.bind_congr fun rest _ => nameBefore?_append_cons ends _ rest back
  induction front with
  | nil =>
      have here := same []
      rw [List.nil_append, List.nil_append] at here ⊢
      rw [calls, calls, here]
      simp [calls]
  | cons d rest ih =>
      rw [List.cons_append, List.cons_append, calls, calls, ih, ← List.cons_append,
        ← List.cons_append, same, List.append_assoc]

/-- Without a dot there is no call. -/
theorem calls_eq_nil {chars : List Char} (noDot : '.' ∉ chars) : calls chars = [] := by
  induction chars with
  | nil => rfl
  | cons c rest ih =>
      have none_ : (c :: rest).dropPrefix? "this.".toList = none := by
        rw [Option.eq_none_iff_forall_ne_some]
        intro after found
        rcases List.dropPrefix?_eq_some_iff.1 found with ⟨front, equal, same⟩
        rw [equal, beq_iff_eq.1 same] at noDot
        exact noDot (List.mem_append_left _ (by decide))
      rw [List.mem_cons, not_or] at noDot
      rw [calls, calledAt?, none_, ih noDot.2]
      rfl

/-- What stands behind the object itself may be the name of a method. -/
theorem calls_this (rest : List Char) :
    calls ("this.".toList ++ rest) = (nameBefore? ['('] rest).toList ++ calls rest := by
  have here : calledAt? ("this.".toList ++ rest) = nameBefore? ['('] rest := by
    rw [calledAt?, dropPrefix?_append, Option.bind_some]
  have elsewhere : ∀ c tail, c ≠ 't' → calledAt? (c :: tail) = none := by
    intro c tail differ
    simp [calledAt?, List.dropPrefix?, differ]
  simp only [String.reduceToList, List.cons_append, List.nil_append] at here ⊢
  simp only [calls, here]
  rw [elsewhere 'h' _ (by decide), elsewhere 'i' _ (by decide), elsewhere 's' _ (by decide),
    elsewhere '.' _ (by decide)]
  rfl

/-- A name up to its bracket calls nothing. -/
theorem calls_name {name : String} (identifier : isIdentifier name = true) (rest : List Char) :
    calls (name.toList ++ '(' :: rest) = calls rest := by
  have noDot : '.' ∉ name.toList ++ ['('] := by
    rw [List.mem_append, not_or]
    refine ⟨fun member => ?_, by decide⟩
    exact absurd (isIdentifierRest_of_mem identifier _ member) (by decide)
  rw [calls_append_cons (by decide) (by decide), calls_eq_nil noDot, List.nil_append]

/-- Setting in a line adds no call. -/
theorem calls_setIn (depth : Nat) (text : String) :
    calls (Layout.setIn depth text).toList = calls text.toList := by
  by_cases filled : text = ""
  · subst filled
    rfl
  · have spaces : ∀ count, calls (List.replicate count ' ' ++ text.toList) = calls text.toList := by
      intro count
      induction count with
      | zero => rfl
      | succ count ih =>
          rw [List.replicate_succ, List.cons_append, calls, ih]
          simp [calledAt?, List.dropPrefix?]
    rw [Layout.toList_setIn filled, spaces]

end NodeDecl.Text
