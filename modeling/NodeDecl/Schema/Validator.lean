import NodeDecl.Json.Value

/-!
# Validators

The validator of a field says which values the field takes. A validator is read
from a JSON object by its deciding key, the first of `type`, `oneOfNodeTypes`,
`oneOfNodeOrValueTypes`, `oneOf`, `chainOf` and `each` that the object has; other
members play no part. Whatever does not fit is kept as it is, for diagnostics.
-/

namespace NodeDecl

open Json (Value)

/-- Which values a field takes. -/
inductive Validator where
  /-- One type, by name. -/
  | exactType (name : String)
  /-- One of some node types. -/
  | oneOfNodeTypes (names : List String)
  /-- One of some node types or primitive value types. -/
  | oneOfNodeOrValueTypes (names : List String)
  /-- One of some scalar values. -/
  | oneOfLiterals (literals : List Value)
  /-- All of some validators in turn. -/
  | chainOf (steps : List Validator)
  /-- The validator of every item of a list. -/
  | each (item : Validator)
  /-- None of the known forms. -/
  | unrecognized (payload : Value)
deriving Repr, Inhabited

namespace Validator

mutual

/-- Equality of two validators is decidable. -/
def decideEq : (left right : Validator) → Decidable (left = right)
  | .exactType a, .exactType b => decidable_of_iff (a = b) (by simp)
  | .oneOfNodeTypes a, .oneOfNodeTypes b => decidable_of_iff (a = b) (by simp)
  | .oneOfNodeOrValueTypes a, .oneOfNodeOrValueTypes b => decidable_of_iff (a = b) (by simp)
  | .oneOfLiterals a, .oneOfLiterals b => decidable_of_iff (a = b) (by simp)
  | .chainOf a, .chainOf b =>
      match decideStepsEq a b with
      | isTrue equal => isTrue (by rw [equal])
      | isFalse differ => isFalse (by simpa using differ)
  | .each a, .each b =>
      match decideEq a b with
      | isTrue equal => isTrue (by rw [equal])
      | isFalse differ => isFalse (by simpa using differ)
  | .unrecognized a, .unrecognized b => decidable_of_iff (a = b) (by simp)
  | .exactType _, .oneOfNodeTypes _ | .exactType _, .oneOfNodeOrValueTypes _
  | .exactType _, .oneOfLiterals _ | .exactType _, .chainOf _ | .exactType _, .each _
  | .exactType _, .unrecognized _ | .oneOfNodeTypes _, .exactType _
  | .oneOfNodeTypes _, .oneOfNodeOrValueTypes _ | .oneOfNodeTypes _, .oneOfLiterals _
  | .oneOfNodeTypes _, .chainOf _ | .oneOfNodeTypes _, .each _
  | .oneOfNodeTypes _, .unrecognized _ | .oneOfNodeOrValueTypes _, .exactType _
  | .oneOfNodeOrValueTypes _, .oneOfNodeTypes _ | .oneOfNodeOrValueTypes _, .oneOfLiterals _
  | .oneOfNodeOrValueTypes _, .chainOf _ | .oneOfNodeOrValueTypes _, .each _
  | .oneOfNodeOrValueTypes _, .unrecognized _ | .oneOfLiterals _, .exactType _
  | .oneOfLiterals _, .oneOfNodeTypes _ | .oneOfLiterals _, .oneOfNodeOrValueTypes _
  | .oneOfLiterals _, .chainOf _ | .oneOfLiterals _, .each _ | .oneOfLiterals _, .unrecognized _
  | .chainOf _, .exactType _ | .chainOf _, .oneOfNodeTypes _
  | .chainOf _, .oneOfNodeOrValueTypes _ | .chainOf _, .oneOfLiterals _ | .chainOf _, .each _
  | .chainOf _, .unrecognized _ | .each _, .exactType _ | .each _, .oneOfNodeTypes _
  | .each _, .oneOfNodeOrValueTypes _ | .each _, .oneOfLiterals _ | .each _, .chainOf _
  | .each _, .unrecognized _ | .unrecognized _, .exactType _ | .unrecognized _, .oneOfNodeTypes _
  | .unrecognized _, .oneOfNodeOrValueTypes _ | .unrecognized _, .oneOfLiterals _
  | .unrecognized _, .chainOf _ | .unrecognized _, .each _ => isFalse (by simp)

/-- Equality of two lists of steps is decidable. -/
def decideStepsEq : (left right : List Validator) → Decidable (left = right)
  | [], [] => isTrue rfl
  | [], _ :: _ | _ :: _, [] => isFalse (by simp)
  | a :: as, b :: bs =>
      match decideEq a b, decideStepsEq as bs with
      | isTrue head, isTrue tail => isTrue (by rw [head, tail])
      | isFalse head, _ => isFalse (by simp [head])
      | _, isFalse tail => isFalse (by simp [tail])

end

instance : DecidableEq Validator := decideEq

/-! ## The JSON form -/

/-- The scalars of an array that holds scalars only. -/
def scalars? (value : Value) : Option (List Value) :=
  value.asArray?.bind fun items => if items.all Value.isScalar then some items else none

mutual

/-- The validator that a JSON value stands for. A deciding key with a value of the
wrong type makes the whole value unrecognised; no later key is tried then. -/
def ofJson : Value → Validator
  | .object members =>
      let decided : Option (Option Validator) :=
        (members.lookup "type").map (fun value => value.asString?.map .exactType) <|>
        (members.lookup "oneOfNodeTypes").map
          (fun value => value.asStrings?.map .oneOfNodeTypes) <|>
        (members.lookup "oneOfNodeOrValueTypes").map
          (fun value => value.asStrings?.map .oneOfNodeOrValueTypes) <|>
        (members.lookup "oneOf").map (fun value => (scalars? value).map .oneOfLiterals) <|>
        (chainIn members).map (fun steps => steps.map .chainOf) <|>
        (eachIn members).map (fun item => some (.each item))
      decided.join.getD (.unrecognized (.object members))
  | payload => .unrecognized payload

/-- The steps under the key `chainOf`, if it is there and if it holds an array. -/
def chainIn : List (String × Value) → Option (Option (List Validator))
  | [] => none
  | (key, .array items) :: rest =>
      if key = "chainOf" then some (some (ofItems items)) else chainIn rest
  | (key, _) :: rest => if key = "chainOf" then some none else chainIn rest

/-- The validator under the key `each`, if it is there. -/
def eachIn : List (String × Value) → Option Validator
  | [] => none
  | (key, value) :: rest => if key = "each" then some (ofJson value) else eachIn rest

/-- The validators that the items of an array stand for. -/
def ofItems : List Value → List Validator
  | [] => []
  | item :: rest => ofJson item :: ofItems rest

end

mutual

/-- The JSON value of a validator: an object with the deciding key alone, or the
payload that was kept. -/
def toJson : Validator → Value
  | .exactType name => .object [("type", .string name)]
  | .oneOfNodeTypes names => .object [("oneOfNodeTypes", .strings names)]
  | .oneOfNodeOrValueTypes names => .object [("oneOfNodeOrValueTypes", .strings names)]
  | .oneOfLiterals literals => .object [("oneOf", .array literals)]
  | .chainOf steps => .object [("chainOf", .array (stepsToJson steps))]
  | .each item => .object [("each", item.toJson)]
  | .unrecognized payload => payload

/-- The JSON values of the steps of a chain. -/
def stepsToJson : List Validator → List Value
  | [] => []
  | step :: rest => step.toJson :: stepsToJson rest

end

theorem ofItems_eq_map (items : List Value) : ofItems items = items.map ofJson := by
  induction items with
  | nil => rfl
  | cons item rest ih => simp [ofItems, ih]

theorem stepsToJson_eq_map (steps : List Validator) : stepsToJson steps = steps.map toJson := by
  induction steps with
  | nil => rfl
  | cons step rest ih => simp [stepsToJson, ih]

/-- `eachIn` is a look-up. -/
theorem eachIn_eq_lookup (members : List (String × Value)) :
    eachIn members = (members.lookup "each").map ofJson := by
  induction members with
  | nil => rfl
  | cons member rest ih =>
    obtain ⟨key, value⟩ := member
    by_cases same : key = "each"
    · simp [eachIn, same]
    · have other : ("each" == key) = false := by simpa using fun equal => same equal.symm
      simp [eachIn, same, List.lookup_cons, other, ih]

/-- `chainIn` is a look-up. -/
theorem chainIn_eq_lookup (members : List (String × Value)) :
    chainIn members =
      (members.lookup "chainOf").map fun value => value.asArray?.map (·.map ofJson) := by
  induction members with
  | nil => rfl
  | cons member rest ih =>
    obtain ⟨key, value⟩ := member
    by_cases same : key = "chainOf"
    · cases value <;> simp [chainIn, same, Value.asArray?, ofItems_eq_map]
    · have other : ("chainOf" == key) = false := by simpa using fun equal => same equal.symm
      cases value <;> simp [chainIn, same, List.lookup_cons, other, ih]

end Validator

end NodeDecl
