/-!
# Indented text

A generated text is laid out as a list of lines, blank lines and blocks. A
`Writer` puts a layout on paper: it holds what has been written and the depth of
the block that is open, and every non-empty line is set in by two spaces for each
open block. Empty lines stay bare, so no line ends in spaces of indentation.
-/

namespace NodeDecl

/-- What an indented text is made of. A block has an opening and a closing line
of its own, and its body stands one level deeper than both. -/
inductive Layout where
  | line (text : String)
  | blank
  | block (opening closing : String) (body : List Layout)

/-- A text in the making: what is written so far, and how many blocks are open. -/
structure Writer where
  text : String := ""
  depth : Nat := 0
deriving DecidableEq, Repr

namespace Writer

/-- Two spaces for each open block. -/
def indentation (depth : Nat) : String :=
  String.ofList (List.replicate (2 * depth) ' ')

/-- Write one line. An empty line is not indented. -/
def line (writer : Writer) (text : String) : Writer :=
  if text.isEmpty then
    { writer with text := writer.text ++ "\n" }
  else
    { writer with text := writer.text ++ indentation writer.depth ++ text ++ "\n" }

/-- Write an empty line. -/
def blank (writer : Writer) : Writer :=
  { writer with text := writer.text ++ "\n" }

/-- The writer inside a block that has just been opened. -/
def deeper (writer : Writer) : Writer :=
  { writer with depth := writer.depth + 1 }

/-- The writer after leaving a block. -/
def shallower (writer : Writer) : Writer :=
  { writer with depth := writer.depth - 1 }

end Writer

namespace Layout

mutual

/-- Write one piece of a layout. -/
def write (writer : Writer) : Layout → Writer
  | .line text => writer.line text
  | .blank => writer.blank
  | .block opening closing body =>
      (writeAll (writer.line opening).deeper body).shallower.line closing

/-- Write the pieces of a layout in order. -/
def writeAll (writer : Writer) : List Layout → Writer
  | [] => writer
  | piece :: rest => writeAll (write writer piece) rest

end

/-- The text of a layout that starts on a fresh page. -/
def render (layout : List Layout) : String :=
  (writeAll {} layout).text

end Layout

end NodeDecl
