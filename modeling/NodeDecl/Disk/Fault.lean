/-!
# Faults of the file system

Why the file system refuses a request, and the words and numbers for it.
-/

namespace NodeDecl

/-- Why a request to the file system failed. -/
inductive Fault where
  | noSuchEntry
  | busy
  | exists
  | notDirectory
  | isDirectory
  | nameTooLong
  /-- The contents of a file are no text. -/
  | notText
  /-- A path holds a character that ends every name. -/
  | nulCharacter
  /-- Any other cause, in the words of the system. -/
  | other (words : String)
deriving DecidableEq, Repr

namespace Fault

/-- The words for a fault. -/
def text : Fault → String
  | .noSuchEntry => "No such file or directory (os error 2)"
  | .busy => "Device or resource busy (os error 16)"
  | .exists => "File exists (os error 17)"
  | .notDirectory => "Not a directory (os error 20)"
  | .isDirectory => "Is a directory (os error 21)"
  | .nameTooLong => "File name too long (os error 36)"
  | .notText => "stream did not contain valid UTF-8"
  | .nulCharacter => "file name contained an unexpected NUL byte"
  | .other words => words

end Fault

end NodeDecl
