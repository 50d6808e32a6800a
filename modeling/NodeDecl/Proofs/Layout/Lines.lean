import Mathlib.Data.List.Basic
import NodeDecl.Layout

/-!
# Lines

A text is cut into lines at its line feeds.  A layout is a list of lines too, each set in
by the depth at which it stands, and its text is these lines, each of them ended.  So a
text that comes from a layout can be read back line by line, provided that no line of the
layout has a line feed in it.
-/

namespace NodeDecl

namespace Text

/-! ## Lines of a text -/

/-- A text without a line feed. -/
def OneLine (text : String) : Prop :=
  '\n' ∉ text.toList

instance (text : String) : Decidable (OneLine text) :=
  inferInstanceAs (Decidable ('\n' ∉ text.toList))

@[simp] theorem oneLine_append {front back : String} :
    OneLine (front ++ back) ↔ OneLine front ∧ OneLine back := by
  simp [OneLine, not_or]

theorem oneLine_intercalate {separator : String} {texts : List String}
    (plainSeparator : OneLine separator) (plain : ∀ text ∈ texts, OneLine text) :
    OneLine (separator.intercalate texts) := by
  rw [OneLine, String.toList_intercalate]
  induction texts with
  | nil => simp
  | cons text rest ih =>
      rw [List.forall_mem_cons] at plain
      cases rest with
      | nil => simpa [OneLine] using plain.1
      | cons next others =>
          have tail := ih plain.2
          rw [List.map_cons, List.map_cons, List.intercalate_cons_cons, ← List.map_cons]
          simp only [List.mem_append, not_or]
          exact ⟨⟨plain.1, plainSeparator⟩, tail⟩

/-- Characters cut behind every line feed. -/
def cutLines : List Char → List (List Char)
  | [] => []
  | c :: rest =>
      if c = '\n' then [] :: cutLines rest
      else
        match cutLines rest with
        | [] => [[c]]
        | line :: others => (c :: line) :: others

/-- The lines of a text. -/
def lines (text : String) : List String :=
  (cutLines text.toList).map String.ofList

/-- Lines, each of them ended by a line feed. -/
def ended : List String → String
  | [] => ""
  | line :: rest => line ++ "\n" ++ ended rest

theorem ended_append (front back : List String) :
    ended (front ++ back) = ended front ++ ended back := by
  induction front with
  | nil => simp [ended]
  | cons line rest ih => simp [ended, ih, String.append_assoc]

/-- A line is cut off at its end. -/
theorem cutLines_append {line : List Char} (rest : List Char) (plain : '\n' ∉ line) :
    cutLines (line ++ '\n' :: rest) = line :: cutLines rest := by
  induction line with
  | nil => simp [cutLines]
  | cons c line ih =>
      rw [List.mem_cons, not_or] at plain
      rw [List.cons_append, cutLines, if_neg (Ne.symm plain.1), ih plain.2]

/-- Lines that have been ended are read back. -/
theorem lines_ended {texts : List String} (plain : ∀ text ∈ texts, OneLine text) :
    lines (ended texts) = texts := by
  induction texts with
  | nil => rfl
  | cons line rest ih =>
      rw [List.forall_mem_cons] at plain
      have chars : (ended (line :: rest)).toList = line.toList ++ '\n' :: (ended rest).toList := by
        simp [ended]
      rw [lines, chars, cutLines_append _ plain.1, List.map_cons, String.ofList_toList, ← lines,
        ih plain.2]

end Text

namespace Layout

/-! ## Lines of a layout -/

/-- A line at some depth.  An empty one stays bare. -/
def setIn (depth : Nat) (text : String) : String :=
  if text.isEmpty then "" else Writer.indentation depth ++ text

/-- The characters of a line that is set in. -/
theorem toList_setIn {text : String} (filled : text ≠ "") (depth : Nat) :
    (setIn depth text).toList = List.replicate (2 * depth) ' ' ++ text.toList := by
  rw [setIn, if_neg (by simpa using filled), Writer.indentation, String.toList_append,
    String.toList_ofList]

/-- A line that no block surrounds is not set in. -/
theorem setIn_zero (text : String) : setIn 0 text = text := by
  rw [setIn]
  split
  · next empty => simpa using (String.isEmpty_iff.1 empty).symm
  · simp [Writer.indentation]

mutual

/-- The lines of a piece of a layout that stands at some depth. -/
def lines (depth : Nat) : Layout → List String
  | .line text => [setIn depth text]
  | .blank => [""]
  | .block opening closing body =>
      setIn depth opening :: (allLines (depth + 1) body ++ [setIn depth closing])

/-- The lines of some pieces of a layout. -/
def allLines (depth : Nat) : List Layout → List String
  | [] => []
  | piece :: rest => lines depth piece ++ allLines depth rest

end

theorem line_eq (writer : Writer) (text : String) :
    writer.line text =
      { text := writer.text ++ Text.ended [setIn writer.depth text], depth := writer.depth } := by
  rw [Writer.line, setIn]
  split
  · simp [Text.ended]
  · simp [Text.ended, String.append_assoc]

mutual

/-- Writing a piece of a layout writes its lines, and the depth is as before. -/
theorem write_eq (writer : Writer) (piece : Layout) :
    write writer piece =
      { text := writer.text ++ Text.ended (lines writer.depth piece), depth := writer.depth } := by
  cases piece with
  | line text => exact line_eq writer text
  | blank => simp [write, Writer.blank, lines, Text.ended]
  | block opening closing body =>
      rw [write, line_eq, writeAll_eq, line_eq, lines]
      simp only [Writer.deeper, Writer.shallower, Nat.add_sub_cancel, Text.ended,
        Text.ended_append, String.append_assoc, String.empty_append]

/-- Writing a layout writes its lines, and the depth is as before. -/
theorem writeAll_eq (writer : Writer) (layout : List Layout) :
    writeAll writer layout =
      { text := writer.text ++ Text.ended (allLines writer.depth layout)
        depth := writer.depth } := by
  cases layout with
  | nil => simp [writeAll, allLines, Text.ended]
  | cons piece rest =>
      rw [writeAll, write_eq, writeAll_eq, allLines, Text.ended_append, String.append_assoc]

end

/-- What is written of a layout on an empty page at some depth. -/
def written (depth : Nat) (layout : List Layout) : String :=
  (writeAll { text := "", depth } layout).text

/-- What is written of a layout is its lines, each of them ended. -/
theorem written_eq (depth : Nat) (layout : List Layout) :
    written depth layout = Text.ended (allLines depth layout) := by
  rw [written, writeAll_eq]
  simp

/-- The text of a layout is its lines, each of them ended. -/
theorem render_eq (layout : List Layout) : render layout = Text.ended (allLines 0 layout) :=
  written_eq 0 layout

/-- The lines of a layout are those of its pieces. -/
theorem allLines_eq_flatMap (depth : Nat) (layout : List Layout) :
    allLines depth layout = layout.flatMap (lines depth) := by
  induction layout with
  | nil => rfl
  | cons piece rest ih => rw [allLines, ih, List.flatMap_cons]

theorem allLines_append (depth : Nat) (front back : List Layout) :
    allLines depth (front ++ back) = allLines depth front ++ allLines depth back := by
  simp only [allLines_eq_flatMap, List.flatMap_append]

/-- Pieces that are one line each. -/
theorem allLines_map {α : Type} (depth : Nat) (values : List α) (text : α → String) :
    allLines depth (values.map fun value => .line (text value)) =
      values.map fun value => setIn depth (text value) := by
  rw [allLines_eq_flatMap, List.flatMap_map, List.map_eq_flatMap]
  rfl

theorem allLines_map_line (depth : Nat) (texts : List String) :
    allLines depth (texts.map .line) = texts.map (setIn depth) :=
  allLines_map depth texts id

/-- Pieces with a blank line behind each of them. -/
theorem allLines_spaced {α : Type} (depth : Nat) (values : List α) (piece : α → Layout) :
    allLines depth (values.flatMap fun value => [piece value, .blank]) =
      values.flatMap fun value => lines depth (piece value) ++ [""] := by
  rw [allLines_eq_flatMap, List.flatMap_assoc]
  rfl

/-- What is written of a layout goes on with what is written of the pieces that follow. -/
theorem written_append (depth : Nat) (front back : List Layout) :
    written depth (front ++ back) = written depth front ++ written depth back := by
  rw [written_eq, written_eq, written_eq, allLines_append, Text.ended_append]

/-- The text of a layout goes on with the text of what follows. -/
theorem render_append (front back : List Layout) :
    render (front ++ back) = render front ++ render back :=
  written_append 0 front back

/-! ## Lines inside of blocks -/

/-- A line that is empty or set in. -/
def Inner (line : String) : Prop :=
  ∀ c ∈ line.toList.head?, c = ' '

theorem inner_setIn (depth : Nat) (text : String) : Inner (setIn (depth + 1) text) := by
  rw [setIn]
  split
  · simp [Inner]
  · simp [Inner, Writer.indentation, Nat.mul_add, List.replicate_succ]

mutual

/-- Below the top, every line is empty or set in. -/
theorem inner_of_mem_lines {depth : Nat} {piece : Layout} :
    ∀ line ∈ lines (depth + 1) piece, Inner line := by
  cases piece with
  | line text => simpa [lines] using inner_setIn depth text
  | blank => simp [lines, Inner]
  | block opening closing body =>
      rw [lines, List.forall_mem_cons, List.forall_mem_append, List.forall_mem_singleton]
      exact ⟨inner_setIn _ _, inner_of_mem_allLines, inner_setIn _ _⟩

theorem inner_of_mem_allLines {depth : Nat} {layout : List Layout} :
    ∀ line ∈ allLines (depth + 1) layout, Inner line := by
  cases layout with
  | nil => simp [allLines]
  | cons piece rest =>
      rw [allLines, List.forall_mem_append]
      exact ⟨inner_of_mem_lines, inner_of_mem_allLines⟩

end

/-! ## Reading lines back -/

/-- Setting in a line puts no line feed into it. -/
@[simp] theorem oneLine_setIn {depth : Nat} {text : String} :
    Text.OneLine (setIn depth text) ↔ Text.OneLine text := by
  rw [setIn]
  split
  · next empty => simp_all [Text.OneLine]
  · simp [Text.OneLine, Writer.indentation]

mutual

/-- A piece of a layout without a line feed inside of any line. -/
def Plain : Layout → Prop
  | .line text => Text.OneLine text
  | .blank => True
  | .block opening closing body =>
      Text.OneLine opening ∧ Text.OneLine closing ∧ AllPlain body

/-- A layout without a line feed inside of any line. -/
def AllPlain : List Layout → Prop
  | [] => True
  | piece :: rest => Plain piece ∧ AllPlain rest

end

theorem allPlain_append {front back : List Layout} :
    AllPlain (front ++ back) ↔ AllPlain front ∧ AllPlain back := by
  induction front with
  | nil => simp [AllPlain]
  | cons piece rest ih => rw [List.cons_append, AllPlain, AllPlain, ih, and_assoc]

theorem allPlain_map {α : Type} {values : List α} {piece : α → Layout}
    (plain : ∀ value ∈ values, Plain (piece value)) : AllPlain (values.map piece) := by
  induction values with
  | nil => exact trivial
  | cons value rest ih =>
      rw [List.forall_mem_cons] at plain
      exact ⟨plain.1, ih plain.2⟩

theorem allPlain_spaced {α : Type} {values : List α} {piece : α → Layout}
    (plain : ∀ value ∈ values, Plain (piece value)) :
    AllPlain (values.flatMap fun value => [piece value, .blank]) := by
  induction values with
  | nil => exact trivial
  | cons value rest ih =>
      rw [List.forall_mem_cons] at plain
      exact ⟨plain.1, trivial, ih plain.2⟩

mutual

theorem Plain.oneLine {depth : Nat} {piece : Layout} (plain : Plain piece) :
    ∀ line ∈ lines depth piece, Text.OneLine line := by
  cases piece with
  | line text => simpa [lines, Plain] using plain
  | blank => simp [lines, Text.OneLine]
  | block opening closing body =>
      rw [Plain] at plain
      rw [lines, List.forall_mem_cons, List.forall_mem_append, List.forall_mem_singleton,
        oneLine_setIn, oneLine_setIn]
      exact ⟨plain.1, AllPlain.oneLine plain.2.2, plain.2.1⟩

theorem AllPlain.oneLine {depth : Nat} {layout : List Layout} (plain : AllPlain layout) :
    ∀ line ∈ allLines depth layout, Text.OneLine line := by
  cases layout with
  | nil => simp [allLines]
  | cons piece rest =>
      rw [AllPlain] at plain
      rw [allLines, List.forall_mem_append]
      exact ⟨plain.1.oneLine, AllPlain.oneLine plain.2⟩

end

/-- The lines of a layout are read back from what is written of it. -/
theorem lines_written {depth : Nat} {layout : List Layout} (plain : AllPlain layout) :
    Text.lines (written depth layout) = allLines depth layout := by
  rw [written_eq, Text.lines_ended plain.oneLine]

/-- The lines of a layout are read back from its text. -/
theorem lines_render {layout : List Layout} (plain : AllPlain layout) :
    Text.lines (render layout) = allLines 0 layout :=
  lines_written plain

end Layout

end NodeDecl
