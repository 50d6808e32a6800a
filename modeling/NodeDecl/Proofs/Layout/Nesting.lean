import Mathlib.Data.List.Basic
import NodeDecl.Proofs.Layout.Lines

/-!
# Nesting

Where a line stands in a layout is said by the blocks around it, without a writer and its
depth.  Putting a layout on paper writes its lines in order, each set in by its own nesting
and by the depth at which the writer began; the writer ends at that depth again.  So what is
written of a layout does not depend on what stands in front of it, and a layout of several
parts is written part by part.
-/

namespace NodeDecl

namespace Text

theorem toList_ended (texts : List String) :
    (ended texts).toList = texts.flatMap fun text => text.toList ++ ['\n'] := by
  induction texts with
  | nil => rfl
  | cons text rest ih => simp [ended, ih]

end Text

namespace Layout

/-! ## Lines with their nesting -/

mutual

/-- The lines of a piece of a layout in order, each with the number of blocks around it.  The
two lines of a block itself stand outside of it. -/
def nested : Layout → List (Nat × String)
  | .line text => [(0, text)]
  | .blank => [(0, "")]
  | .block opening closing body =>
      (0, opening) ::
        ((allNested body).map (fun line => (line.1 + 1, line.2)) ++ [(0, closing)])

/-- The lines of some pieces of a layout in order, each with the number of blocks around it. -/
def allNested : List Layout → List (Nat × String)
  | [] => []
  | piece :: rest => nested piece ++ allNested rest

end

mutual

/-- The lines of a piece at some depth are set in by the depth and by their nesting. -/
theorem lines_eq_map_nested (depth : Nat) (piece : Layout) :
    lines depth piece = (nested piece).map fun line => setIn (line.1 + depth) line.2 := by
  cases piece with
  | line text => simp [lines, nested]
  | blank => simp [lines, nested, setIn]
  | block opening closing body =>
      rw [lines, nested, allLines_eq_map_allNested]
      simp [Nat.add_assoc, Nat.add_comm 1 depth]

/-- The lines of a layout at some depth are set in by the depth and by their nesting. -/
theorem allLines_eq_map_allNested (depth : Nat) (layout : List Layout) :
    allLines depth layout = (allNested layout).map fun line => setIn (line.1 + depth) line.2 := by
  cases layout with
  | nil => rfl
  | cons piece rest =>
      rw [allLines, allNested, lines_eq_map_nested, allLines_eq_map_allNested, List.map_append]

end

/-! ## Pieces -/

/-- Whether a piece of a layout is a block. -/
def isBlock : Layout → Bool
  | .block _ _ _ => true
  | .line _ | .blank => false

mutual

/-- A piece of a layout and all pieces inside of it. -/
def pieces : Layout → List Layout
  | .line text => [.line text]
  | .blank => [.blank]
  | .block opening closing body => .block opening closing body :: allPieces body

/-- Some pieces of a layout and all pieces inside of them. -/
def allPieces : List Layout → List Layout
  | [] => []
  | piece :: rest => pieces piece ++ allPieces rest

end

mutual

/-- A block has two lines of its own, every other piece one. -/
theorem length_lines (depth : Nat) (piece : Layout) :
    (lines depth piece).length =
      (pieces piece).countP (!·.isBlock) + 2 * (pieces piece).countP isBlock := by
  cases piece with
  | line text => rfl
  | blank => rfl
  | block opening closing body =>
      rw [lines, pieces, List.length_cons, List.length_append, List.length_singleton,
        length_allLines, List.countP_cons_of_neg (by simp [isBlock]), List.countP_cons_of_pos rfl]
      omega

theorem length_allLines (depth : Nat) (layout : List Layout) :
    (allLines depth layout).length =
      (allPieces layout).countP (!·.isBlock) + 2 * (allPieces layout).countP isBlock := by
  cases layout with
  | nil => rfl
  | cons piece rest =>
      rw [allLines, allPieces, List.length_append, List.countP_append, List.countP_append,
        length_lines, length_allLines]
      omega

end

/-! ## What is written -/

/-- What is written of a layout, character by character. -/
theorem toList_written (depth : Nat) (layout : List Layout) :
    (written depth layout).toList =
      (allNested layout).flatMap fun line =>
        (if line.2 = "" then []
          else List.replicate (2 * (line.1 + depth)) ' ' ++ line.2.toList) ++ ['\n'] := by
  rw [written_eq, allLines_eq_map_allNested, Text.toList_ended, List.flatMap_map]
  apply List.flatMap_congr
  intro line _
  split
  · next empty => simp [setIn, empty]
  · next filled => rw [toList_setIn filled]

/-- Parts of a layout are written one behind the other. -/
theorem written_flatten (depth : Nat) (parts : List (List Layout)) :
    written depth parts.flatten = String.join (parts.map (written depth)) := by
  induction parts with
  | nil => rfl
  | cons part rest ih =>
      rw [List.flatten_cons, written_append, ih, List.map_cons, String.join_cons]

/-- **A layout is written line by line.**

The writer ends at the depth at which it began, and it has added to its text the lines of the
layout in order.  A line that is not empty has two spaces in front of it for each block
around it and for each level at which the writer began; an empty one has nothing but its line
feed; and the lines of a block itself stand at the level of the block.  The parts of a layout
are written one behind the other.  If there is no line feed inside of a line, then the text
has one line for each line and blank of the layout and two for each block. -/
theorem writeAll_exact (writer : Writer) (layout : List Layout) :
    writeAll writer layout =
      { text := writer.text ++ written writer.depth layout, depth := writer.depth } ∧
    (written writer.depth layout).toList =
      (allNested layout).flatMap (fun line =>
        (if line.2 = "" then []
          else List.replicate (2 * (line.1 + writer.depth)) ' ' ++ line.2.toList) ++ ['\n']) ∧
    (∀ parts : List (List Layout),
      written writer.depth parts.flatten = String.join (parts.map (written writer.depth))) ∧
    (AllPlain layout →
      (Text.lines (written writer.depth layout)).length =
        (allPieces layout).countP (!·.isBlock) + 2 * (allPieces layout).countP isBlock) := by
  refine ⟨?_, toList_written _ _, written_flatten _, ?_⟩
  · rw [written_eq, writeAll_eq]
  · intro plain
    rw [lines_written plain, length_allLines]

/-- A class inside of a block, with a blank line in it. -/
theorem writeAll_exact_of_class :
    let writer : Writer := { text := "a\n", depth := 1 }
    let layout : List Layout :=
      [.block "class A \x7b" "\x7d" [.line "x;", .line "", .block "f(" ")" [.blank, .line "y"]]]
    (writeAll writer layout).text =
        "a\n  class A \x7b\n    x;\n\n    f(\n\n      y\n    )\n  \x7d\n" ∧
      AllPlain layout ∧ (Text.lines (written writer.depth layout)).length = 8 := by
  intro writer layout
  have plain : AllPlain layout := by
    simp only [layout, AllPlain, Plain]
    decide
  exact ⟨by decide +kernel, plain, (writeAll_exact writer layout).2.2.2 plain⟩

end Layout

end NodeDecl
