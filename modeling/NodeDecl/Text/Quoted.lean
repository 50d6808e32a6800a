import NodeDecl.Text.Unprintable

/-!
# Quoted text in diagnostics

How a diagnostic shows a text: between double quotes, on one line, with every
character visible. A few control characters have a letter of their own, and other
unprintable ones are shown by their code.
-/

namespace NodeDecl.Text

/-- A code point in braces, in hexadecimal. -/
def codeEscape (c : Char) : List Char :=
  ['\\', 'u', '\x7b'] ++ Nat.toDigits 16 c.toNat ++ ['\x7d']

/-- One character of a quoted text. -/
def visible (c : Char) : List Char :=
  if c = '"' then ['\\', '"']
  else if c = '\\' then ['\\', '\\']
  else if c = '\n' then ['\\', 'n']
  else if c = '\r' then ['\\', 'r']
  else if c = '\t' then ['\\', 't']
  else if c = '\x00' then ['\\', '0']
  else if isUnprintable c then codeEscape c
  else [c]

/-- One character of a quoted file name, where an apostrophe is escaped too. -/
def visibleInName (c : Char) : List Char :=
  if c = '\'' then ['\\', '\''] else visible c

/-- A text in double quotes. -/
def quoted (text : String) : String :=
  String.ofList ('"' :: text.toList.flatMap visible ++ ['"'])

/-- A file name in double quotes. -/
def quotedName (name : String) : String :=
  String.ofList ('"' :: name.toList.flatMap visibleInName ++ ['"'])

end NodeDecl.Text
