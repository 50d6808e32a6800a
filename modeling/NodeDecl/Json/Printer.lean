import NodeDecl.Json.Value

/-!
# Writing JSON

Two layouts of a value: `compact` without any blank, and `pretty` with each item
and member on a line of its own, set in by two spaces for each level. Both escape
strings in the least way: the quote, the backslash and the control characters
below U+0020, and nothing else.
-/

namespace NodeDecl.Json

/-- A digit of a hexadecimal number, in lower case. -/
def hexDigit (digit : Nat) : Char :=
  Nat.digitChar digit

/-- One character as it stands inside a string. Control characters without a short
escape are written with four hexadecimal digits. -/
def escape (c : Char) : List Char :=
  if c = '"' then ['\\', '"']
  else if c = '\\' then ['\\', '\\']
  else if c = '\n' then ['\\', 'n']
  else if c = '\r' then ['\\', 'r']
  else if c = '\t' then ['\\', 't']
  else if c = '\x08' then ['\\', 'b']
  else if c = '\x0c' then ['\\', 'f']
  else if c.toNat < 32 then
    ['\\', 'u', '0', '0', hexDigit (c.toNat / 16), hexDigit (c.toNat % 16)]
  else [c]

/-- A string in quotes. -/
def quote (text : String) : List Char :=
  '"' :: text.toList.flatMap escape ++ ['"']

/-- The text of a number. -/
def Number.text : Number → List Char
  | .integer value => value.repr.toList
  | .double value => value.text

namespace Value

mutual

/-- A value without any blank. -/
def compact : Value → List Char
  | .null => "null".toList
  | .bool true => "true".toList
  | .bool false => "false".toList
  | .number value => value.text
  | .string text => quote text
  | .array items => '[' :: compactItems items ++ [']']
  | .object members => '{' :: compactMembers members ++ ['}']

/-- The items of an array with commas between them. -/
def compactItems : List Value → List Char
  | [] => []
  | [item] => item.compact
  | item :: next :: rest => item.compact ++ ',' :: compactItems (next :: rest)

/-- The members of an object with commas between them. -/
def compactMembers : List (String × Value) → List Char
  | [] => []
  | [(key, value)] => quote key ++ ':' :: value.compact
  | (key, value) :: next :: rest =>
      quote key ++ ':' :: value.compact ++ ',' :: compactMembers (next :: rest)

end

/-- A new line at a level of nesting. -/
def freshLine (level : Nat) : List Char :=
  '\n' :: List.replicate (2 * level) ' '

mutual

/-- A value with each item and member on a line of its own, at a level of nesting.
Arrays and objects without content stay on one line. -/
def prettyAt (level : Nat) : Value → List Char
  | .array [] => ['[', ']']
  | .array (item :: rest) =>
      '[' :: prettyItems (level + 1) (item :: rest) ++ freshLine level ++ [']']
  | .object [] => ['{', '}']
  | .object (member :: rest) =>
      '{' :: prettyMembers (level + 1) (member :: rest) ++ freshLine level ++ ['}']
  | .null => "null".toList
  | .bool true => "true".toList
  | .bool false => "false".toList
  | .number value => value.text
  | .string text => quote text

/-- Items on lines of their own. -/
def prettyItems (level : Nat) : List Value → List Char
  | [] => []
  | [item] => freshLine level ++ item.prettyAt level
  | item :: next :: rest =>
      freshLine level ++ item.prettyAt level ++ ',' :: prettyItems level (next :: rest)

/-- Members on lines of their own. -/
def prettyMembers (level : Nat) : List (String × Value) → List Char
  | [] => []
  | [(key, value)] => freshLine level ++ quote key ++ ':' :: ' ' :: value.prettyAt level
  | (key, value) :: next :: rest =>
      freshLine level ++ quote key ++ ':' :: ' ' :: value.prettyAt level ++
        ',' :: prettyMembers level (next :: rest)

end

/-- The compact text of a value. -/
def toText (value : Value) : String :=
  String.ofList value.compact

/-- The pretty text of a value. -/
def toPrettyText (value : Value) : String :=
  String.ofList (value.prettyAt 0)

end Value

end NodeDecl.Json
