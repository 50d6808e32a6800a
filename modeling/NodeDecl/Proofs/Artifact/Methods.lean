import NodeDecl.Proofs.Text.Classes

/-!
# Methods of a generated class

A generated class is a block, and each piece of its body is one method: a line that begins
with a name and a bracket, or a block that opens so.  The methods that are read off the
text are those of the pieces, one by one.
-/

namespace NodeDecl

open Layout (AllPlain setIn)
open Text (Method IsSection definedMethod? calls)

/-- What a piece of a class calls on the object itself. -/
def callsOf (piece : Layout) : List String :=
  (Layout.lines 1 piece).flatMap fun line => calls line.toList

/-- A piece of a class that is read as a method. -/
structure Defines (piece : Layout) (method : Method) : Prop where
  isSection : IsSection definedMethod? method.name (Layout.lines 1 piece)
  calls : callsOf piece = method.calls

/-- Methods one after the other are read one by one. -/
theorem sections_of_defines {body : List Layout} {methods : List Method}
    (defines : List.Forall₂ Defines body methods) :
    (Text.sections definedMethod? (Layout.allLines 1 body)).1 = [] ∧
      (Text.sections definedMethod? (Layout.allLines 1 body)).2.map .ofLines = methods := by
  induction defines with
  | nil => exact ⟨rfl, rfl⟩
  | @cons piece method pieces others defines _ ih =>
      have read : Method.ofLines (method.name, Layout.lines 1 piece) = method :=
        congrArg (Method.mk method.name) defines.calls
      rw [Layout.allLines, defines.isSection.sections_append ih.1]
      exact ⟨rfl, by rw [List.map_cons, read, ih.2]⟩

section

variable {front back body : List Layout} {opening : String}

/-- The lines of a layout with a block in it. -/
theorem lines_of_block (plain : AllPlain (front ++ .block opening "\x7d" body :: back)) :
    Text.lines (Layout.render (front ++ .block opening "\x7d" body :: back)) =
      Layout.allLines 0 front ++
        opening :: (Layout.allLines 1 body ++ "\x7d" :: Layout.allLines 0 back) := by
  rw [Layout.lines_render plain]
  simp only [Layout.allLines_append, Layout.allLines, Layout.lines, Layout.setIn_zero,
    List.cons_append, List.append_assoc, List.nil_append]

/-- The lines inside of a class that stands in a layout. -/
theorem classBody_of_class (plain : AllPlain (front ++ .block opening "\x7d" body :: back))
    (before : ∀ line ∈ Layout.allLines 0 front, Text.opensClass line = false)
    (opens : Text.opensClass opening = true) :
    Text.classBody (Layout.render (front ++ .block opening "\x7d" body :: back)) =
      Layout.allLines 1 body :=
  Text.classBody_eq (lines_of_block plain) before opens Layout.inner_of_mem_allLines

/-- The methods of a class that stands in a layout. -/
theorem methods_of_class {methods : List Method}
    (plain : AllPlain (front ++ .block opening "\x7d" body :: back))
    (before : ∀ line ∈ Layout.allLines 0 front, Text.opensClass line = false)
    (opens : Text.opensClass opening = true) (defines : List.Forall₂ Defines body methods) :
    Text.methods (Layout.render (front ++ .block opening "\x7d" body :: back)) = methods := by
  rw [Text.methods, classBody_of_class plain before opens]
  exact (sections_of_defines defines).2

end

/-- Pieces of one family, each of them a method. -/
theorem defines_map {α : Type} {values : List α} {piece : α → Layout} {method : α → Method}
    (each : ∀ value ∈ values, Defines (piece value) (method value)) :
    List.Forall₂ Defines (values.map piece) (values.map method) := by
  rw [List.forall₂_map_left_iff, List.forall₂_map_right_iff, List.forall₂_same]
  exact each

section

variable {name text : String} {rest : List Char} {bracket : Char}

theorem definedMethod?_setIn (identifier : isIdentifier name = true) (opens : bracket ∈ ['(', '<'])
    (begins : text.toList = name.toList ++ bracket :: rest) :
    definedMethod? (setIn 1 text) = some name := by
  have filled : text ≠ "" := by
    rintro rfl
    simp at begins
  have line : (setIn 1 text).toList = "  ".toList ++ (name.toList ++ bracket :: rest) := by
    rw [← begins]
    exact Layout.toList_setIn filled 1
  exact Text.definedMethod?_eq_some identifier opens line

/-- A line that begins with a name and a bracket is a method. -/
theorem defines_line (identifier : isIdentifier name = true) (opens : bracket ∈ ['(', '<'])
    (begins : text.toList = name.toList ++ bracket :: rest) :
    Defines (.line text) ⟨name, calls text.toList⟩ where
  isSection := ⟨_, [], rfl, definedMethod?_setIn identifier opens begins, by simp⟩
  calls := by rw [callsOf, Layout.lines, List.flatMap_singleton, Text.calls_setIn]

/-- A block whose opening begins with a name and a bracket is a method, with the lines
inside. -/
theorem defines_block (texts : List String) (identifier : isIdentifier name = true)
    (begins : text.toList = name.toList ++ '(' :: rest) (filled : ∀ inner ∈ texts, inner ≠ "") :
    Defines (.block text "\x7d" (texts.map .line))
      ⟨name, calls rest ++ texts.flatMap fun inner => calls inner.toList⟩ where
  isSection := by
    refine ⟨_, _, rfl, definedMethod?_setIn identifier (by simp) begins, ?_⟩
    rw [List.forall_mem_append, List.forall_mem_singleton]
    constructor
    · intro line member
      rw [Layout.allLines_map_line, List.mem_map] at member
      rcases member with ⟨inner, inTexts, rfl⟩
      exact Text.definedMethod?_eq_none (c := ' ') (by decide)
        (Layout.toList_setIn (filled inner inTexts) 2)
    · decide +kernel
  calls := by
    have closing : calls (setIn 1 "\x7d").toList = [] := by decide +kernel
    rw [callsOf, Layout.lines, Layout.allLines_map_line, List.flatMap_cons, List.flatMap_append,
      List.flatMap_map, List.flatMap_singleton, closing, Text.calls_setIn, begins,
      Text.calls_name identifier, List.append_nil]
    simp only [Text.calls_setIn]

end

end NodeDecl
