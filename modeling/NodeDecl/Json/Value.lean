import NodeDecl.Json.Double

/-!
# JSON values

The tree that a JSON text denotes. Objects keep their members in the order in
which their keys first appear. A number is an integer or a double, so an integer
text is kept exactly and a text with a fraction or an exponent is rounded once.
-/

namespace NodeDecl.Json

/-- A JSON number: an integer kept exactly, or a double. -/
inductive Number where
  | integer (value : Int)
  | double (value : Double)
deriving DecidableEq, Repr

/-- A JSON value. -/
inductive Value where
  | null
  | bool (value : Bool)
  | number (value : Number)
  | string (value : String)
  | array (items : List Value)
  | object (members : List (String × Value))
deriving Repr, Inhabited

namespace Value

mutual

/-- Equality of two values is decidable. -/
def decideEq : (left right : Value) → Decidable (left = right)
  | .null, .null => isTrue rfl
  | .bool a, .bool b => decidable_of_iff (a = b) (by simp)
  | .number a, .number b => decidable_of_iff (a = b) (by simp)
  | .string a, .string b => decidable_of_iff (a = b) (by simp)
  | .array a, .array b =>
      match decideItemsEq a b with
      | isTrue equal => isTrue (by rw [equal])
      | isFalse differ => isFalse (by simpa using differ)
  | .object a, .object b =>
      match decideMembersEq a b with
      | isTrue equal => isTrue (by rw [equal])
      | isFalse differ => isFalse (by simpa using differ)
  | .null, .bool _ | .null, .number _ | .null, .string _ | .null, .array _ | .null, .object _
  | .bool _, .null | .bool _, .number _ | .bool _, .string _ | .bool _, .array _
  | .bool _, .object _ | .number _, .null | .number _, .bool _ | .number _, .string _
  | .number _, .array _ | .number _, .object _ | .string _, .null | .string _, .bool _
  | .string _, .number _ | .string _, .array _ | .string _, .object _ | .array _, .null
  | .array _, .bool _ | .array _, .number _ | .array _, .string _ | .array _, .object _
  | .object _, .null | .object _, .bool _ | .object _, .number _ | .object _, .string _
  | .object _, .array _ => isFalse (by simp)

/-- Equality of two lists of items is decidable. -/
def decideItemsEq : (left right : List Value) → Decidable (left = right)
  | [], [] => isTrue rfl
  | [], _ :: _ | _ :: _, [] => isFalse (by simp)
  | a :: as, b :: bs =>
      match decideEq a b, decideItemsEq as bs with
      | isTrue head, isTrue tail => isTrue (by rw [head, tail])
      | isFalse head, _ => isFalse (by simp [head])
      | _, isFalse tail => isFalse (by simp [tail])

/-- Equality of two lists of members is decidable. -/
def decideMembersEq : (left right : List (String × Value)) → Decidable (left = right)
  | [], [] => isTrue rfl
  | [], _ :: _ | _ :: _, [] => isFalse (by simp)
  | (k, a) :: as, (l, b) :: bs =>
      if key : k = l then
        match decideEq a b, decideMembersEq as bs with
        | isTrue head, isTrue tail => isTrue (by rw [key, head, tail])
        | isFalse head, _ => isFalse (by simp [head])
        | _, isFalse tail => isFalse (by simp [tail])
      else isFalse (by simp [key])

end

instance : DecidableEq Value := decideEq

/-- The value under a key of an object. -/
def get? (value : Value) (key : String) : Option Value :=
  match value with
  | .object members => members.lookup key
  | _ => none

/-- The text of a string value. -/
def asString? : Value → Option String
  | .string text => some text
  | _ => none

/-- The truth value of a boolean. -/
def asBool? : Value → Option Bool
  | .bool value => some value
  | _ => none

/-- The items of an array. -/
def asArray? : Value → Option (List Value)
  | .array items => some items
  | _ => none

/-- The texts of an array that holds strings only. -/
def asStrings? (value : Value) : Option (List String) :=
  value.asArray?.bind fun items => items.mapM asString?

/-- Null, booleans, numbers and strings are scalars. -/
def isScalar : Value → Bool
  | .array _ | .object _ => false
  | _ => true

/-- An array of strings. -/
def strings (texts : List String) : Value :=
  .array (texts.map .string)

end Value

end NodeDecl.Json
