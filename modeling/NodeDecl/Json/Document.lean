import NodeDecl.Json.List
import NodeDecl.Json.Object

/-!
# Documents

The reader of values of any kind, and the reading of a whole document.
-/

namespace NodeDecl.Json

variable {α : Type}

/-- Any scalar. -/
def readAnyScalar : Reader Value where
  run text :=
    match scalar? text with
    | some outcome => outcome
    | none => .error (.on (if text.isEmpty then .endOfValue else .expectedValue) text)
  consumes accepted := by
    split at accepted
    · next outcome found =>
      subst accepted
      exact scalar?_length_lt found
    · simp at accepted

/-- The part of a list or an object behind its opening bracket. -/
def valueBody (inside : Reader Value) (opening : Char) : Reader Value :=
  if opening = '[' then (listBody inside).map .array
  else (mapBody inside).map fun map => .object map.entries

/-- Any value, as a function of the levels of nesting that are left. -/
def readValue : Nat → Reader Value
  | 0 => .dispatch isBracket none readAnyScalar
  | levels + 1 => .dispatch isBracket (some (valueBody (readValue levels))) readAnyScalar

/-- How deep lists and objects may be nested in a document. -/
def nestingLimit : Nat := 127

/-- The value at the front of a text. What stands behind it is not looked at. -/
def parse (reader : Nat → Reader α) (text : String) : Except ParseError α :=
  match (reader nestingLimit).run text.toList with
  | .ok (value, _) => .ok value
  | .error failure => .error (failure.toError text)

end NodeDecl.Json
