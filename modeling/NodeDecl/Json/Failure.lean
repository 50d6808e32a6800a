import NodeDecl.Json.Printer
import NodeDecl.Text.Quoted

/-!
# Why reading failed

A failed reading has a reason, the path of the value at which it failed, and a
position in the text. While reading goes on a position is known only by the text
that is still unread; `Failure.toError` turns it into a line and a column once
the whole text is at hand.
-/

namespace NodeDecl.Json

/-- What stood where something else was expected. -/
inductive Found where
  | scalar (value : Value)
  | sequence
  | map
deriving DecidableEq, Repr

namespace Found

/-- The words for what was found. -/
def text : Found → String
  | .sequence => "sequence"
  | .map => "map"
  | .scalar (.bool true) => "boolean `true`"
  | .scalar (.bool false) => "boolean `false`"
  | .scalar (.number (.integer value)) => "integer `" ++ value.repr ++ "`"
  | .scalar (.number (.double value)) =>
      "floating point `" ++ String.ofList value.text ++ "`"
  | .scalar (.string value) => "string " ++ Text.quoted value
  | .scalar .null => "null"
  | .scalar (.array _) => "sequence"
  | .scalar (.object _) => "map"

end Found

/-- The reasons for which a text is refused. -/
inductive Reason where
  | endOfValue
  | endOfList
  | endOfObject
  | endOfString
  | expectedColon
  | expectedListCommaOrEnd
  | expectedObjectCommaOrEnd
  | expectedIdent
  | expectedValue
  | keyMustBeString
  | trailingComma
  | trailingCharacters
  | invalidNumber
  | numberOutOfRange
  | invalidEscape
  | unexpectedEndOfHexEscape
  | loneLeadingSurrogate
  | controlCharacter
  | recursionLimit
  /-- A value of another kind than the one that is expected. -/
  | invalidType (found : Found) (expected : String)
  /-- A known member of a record is given twice. -/
  | duplicateField (name : String)
  /-- A name is bound twice where every name may be bound once. -/
  | definedTwice (noun name : String)
deriving DecidableEq, Repr

namespace Reason

/-- The words for a reason. -/
def text : Reason → String
  | .endOfValue => "EOF while parsing a value"
  | .endOfList => "EOF while parsing a list"
  | .endOfObject => "EOF while parsing an object"
  | .endOfString => "EOF while parsing a string"
  | .expectedColon => "expected `:`"
  | .expectedListCommaOrEnd => "expected `,` or `]`"
  | .expectedObjectCommaOrEnd => "expected `,` or `\x7d`"
  | .expectedIdent => "expected ident"
  | .expectedValue => "expected value"
  | .keyMustBeString => "key must be a string"
  | .trailingComma => "trailing comma"
  | .trailingCharacters => "trailing characters"
  | .invalidNumber => "invalid number"
  | .numberOutOfRange => "number out of range"
  | .invalidEscape => "invalid escape"
  | .unexpectedEndOfHexEscape => "unexpected end of hex escape"
  | .loneLeadingSurrogate => "lone leading surrogate in hex escape"
  | .controlCharacter =>
      "control character (\\u0000-\\u001F) found while parsing a string"
  | .recursionLimit => "recursion limit exceeded"
  | .invalidType found expected =>
      "invalid type: " ++ found.text ++ ", expected " ++ expected
  | .duplicateField name => "duplicate field `" ++ name ++ "`"
  | .definedTwice noun name => noun ++ " `" ++ name ++ "` is defined more than once"

end Reason

/-- One step from a value to a value inside it. -/
inductive Segment where
  | key (name : String)
  | index (position : Nat)
  /-- A key that could not be read. -/
  | unknown
deriving DecidableEq, Repr

namespace Segment

/-- The text of the segments after the first one; only keys are set off by a dot. -/
def continued : List Segment → String
  | [] => ""
  | .key name :: rest => "." ++ name ++ continued rest
  | .unknown :: rest => ".?" ++ continued rest
  | .index position :: rest => "[" ++ position.repr ++ "]" ++ continued rest

/-- The text of a path from the root of a document. -/
def pathText : List Segment → String
  | [] => "."
  | .key name :: rest => name ++ continued rest
  | .unknown :: rest => "?" ++ continued rest
  | .index position :: rest => "[" ++ position.repr ++ "]" ++ continued rest

end Segment

/-- A failure while reading: the reason, the path, the text that was unread, and
how many of its bytes lie before the position that is reported. -/
structure Failure where
  reason : Reason
  path : List Segment := []
  unread : List Char
  beyond : Nat := 0
deriving DecidableEq, Repr

namespace Failure

/-- A failure right before the unread text. -/
def before (reason : Reason) (unread : List Char) : Failure :=
  { reason, unread }

/-- A failure that blames the first character of the unread text. -/
def on (reason : Reason) (unread : List Char) : Failure :=
  { reason, unread, beyond := 1 }

/-- The same failure seen from the value around. -/
def within (segment : Segment) (failure : Failure) : Failure :=
  { failure with path := segment :: failure.path }

end Failure

/-- A refused document: the reason, the path of the value that was refused, and
the line and column at which reading stopped. Columns count bytes, and a line
feed stands at column 0 of the line that it begins. -/
structure ParseError where
  reason : Reason
  path : List Segment
  line : Nat
  column : Nat
deriving DecidableEq, Repr

namespace ParseError

/-- The text of a refusal. -/
def text (error : ParseError) : String :=
  "at JSON path " ++ Segment.pathText error.path ++ " → " ++ error.reason.text ++
    " at line " ++ error.line.repr ++ " column " ++ error.column.repr

end ParseError

/-- The byte of the line feed. -/
def lineFeed : UInt8 := 10

/-- The refusal of a whole text that a failure stands for. -/
def Failure.toError (failure : Failure) (text : String) : ParseError :=
  let unread := (String.ofList failure.unread).utf8ByteSize
  let offset := text.utf8ByteSize - unread + failure.beyond
  let before := text.toUTF8.toList.take offset
  { reason := failure.reason
    path := failure.path
    line := 1 + before.count lineFeed
    column := (before.reverse.takeWhile (· != lineFeed)).length }

end NodeDecl.Json
