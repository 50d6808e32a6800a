import NodeDecl.Json.Printer

/-!
# Literals as source text

How a literal type is written. A scalar other than a string is written as in
JSON. A string stands between single quotes, double quotes or backticks, the first
of these that it does not contain, and characters that would break the line or
end the literal are escaped.
-/

namespace NodeDecl

open Json (Value)

namespace Literal

/-- The quotes that a string may be written in, in order of preference. -/
def quotes : List Char :=
  ['\'', '"', '\x60']

/-- The first quote that a string does not contain, or a single quote. -/
def quoteFor (text : List Char) : Char :=
  (quotes.find? fun quote => !text.contains quote).getD '\''

/-- Control characters: those below U+0020 and from U+007F up to U+009F. -/
def isControl (c : Char) : Bool :=
  c.toNat < 0x20 || (0x7F ≤ c.toNat && c.toNat < 0xA0)

/-- A hexadecimal digit in upper case. -/
def upperHexDigit (digit : Nat) : Char :=
  (Nat.digitChar digit).toUpper

/-- One character of a string between quotes of a kind. -/
def escape (quote c : Char) : List Char :=
  if c = '\\' then ['\\', '\\']
  else if c = '\n' then ['\\', 'n']
  else if c = '\t' then ['\\', 't']
  else if c = '\r' then ['\\', 'r']
  else if c = '\x08' then ['\\', 'b']
  else if c = '\x0c' then ['\\', 'f']
  else if c = '\x0b' then ['\\', 'v']
  else if c = quote then ['\\', c]
  else if isControl c then
    ['\\', 'x', upperHexDigit (c.toNat / 16), upperHexDigit (c.toNat % 16)]
  else [c]

/-- A string between the quotes that suit it. -/
def ofString (text : String) : List Char :=
  let quote := quoteFor text.toList
  quote :: text.toList.flatMap (escape quote) ++ [quote]

/-- The text of a literal. -/
def text : Value → String
  | .string value => String.ofList (ofString value)
  | value => value.toText

end Literal

end NodeDecl
