import NodeDecl.TypeExpr.Resolution

/-!
# One key decides what a validator is

An object is read by the first of its deciding keys and by the value under that key.  All
other members may be changed as long as no key of more weight is added.  If the object is
recognised, this does not change what it is read as, nor what an object around it is read as
that holds it as a step of a chain or as the validator of items.
-/

namespace NodeDecl.Validator

open Json (Value)

/-- The keys that decide what an object is read as, from the one of most weight on. -/
def decidingKeys : List String :=
  ["type", "oneOfNodeTypes", "oneOfNodeOrValueTypes", "oneOf", "chainOf", "each"]

/-- The deciding key that an object has, with its value. -/
def deciding? (members : List (String × Value)) : Option (String × Value) :=
  decidingKeys.findSome? fun key => (members.lookup key).map fun value => (key, value)

/-- What a value under a deciding key stands for, unless it is of the wrong type. -/
def form? (key : String) (value : Value) : Option Validator :=
  match key with
  | "type" => value.asString?.map .exactType
  | "oneOfNodeTypes" => value.asStrings?.map .oneOfNodeTypes
  | "oneOfNodeOrValueTypes" => value.asStrings?.map .oneOfNodeOrValueTypes
  | "oneOf" => (scalars? value).map .oneOfLiterals
  | "chainOf" => value.asArray?.map fun items => .chainOf (items.map ofJson)
  | "each" => some (.each (ofJson value))
  | _ => none

/-- A validator of one of the known forms. -/
def Recognised (validator : Validator) : Prop :=
  ∀ payload, validator ≠ .unrecognized payload

/-- A key decides what an object is read as: the object has it with a value, and it has no
key of more weight. -/
structure DecidedBy (members : List (String × Value)) (key : String) (value : Value) :
    Prop where
  found : members.lookup key = some value
  first : ∃ higher lower, decidingKeys = higher ++ key :: lower ∧
    ∀ other ∈ higher, members.lookup other = none

variable {members members' : List (String × Value)} {key : String} {value value' : Value}

theorem deciding?_eq_some_iff :
    deciding? members = some (key, value) ↔ DecidedBy members key value := by
  rw [deciding?, List.findSome?_eq_some_iff]
  constructor
  · rintro ⟨higher, other, lower, equal, found, first⟩
    obtain ⟨_, found, same⟩ := Option.map_eq_some_iff.1 found
    cases same
    exact ⟨found, higher, lower, equal, fun key member => Option.map_eq_none_iff.1 (first key member)⟩
  · rintro ⟨found, higher, lower, equal, first⟩
    exact ⟨higher, key, lower, equal, by rw [found]; rfl,
      fun key member => Option.map_eq_none_iff.2 (first key member)⟩

theorem deciding?_eq_none_iff :
    deciding? members = none ↔ ∀ key ∈ decidingKeys, members.lookup key = none := by
  simp only [deciding?, List.findSome?_eq_none_iff, Option.map_eq_none_iff]

/-- An object is read by its deciding key alone. -/
theorem ofJson_object (members : List (String × Value)) :
    ofJson (.object members) =
      ((deciding? members).bind fun (key, value) => form? key value).getD
        (.unrecognized (.object members)) := by
  rw [ofJson, chainIn_eq_lookup, eachIn_eq_lookup, deciding?, decidingKeys]
  simp only [List.findSome?_cons, List.findSome?_nil]
  cases members.lookup "type" with
  | some value => rfl
  | none =>
  cases members.lookup "oneOfNodeTypes" with
  | some value => rfl
  | none =>
  cases members.lookup "oneOfNodeOrValueTypes" with
  | some value => rfl
  | none =>
  cases members.lookup "oneOf" with
  | some value => rfl
  | none =>
  cases members.lookup "chainOf" with
  | some value => cases value <;> rfl
  | none =>
  cases members.lookup "each" with
  | some value => rfl
  | none => rfl

theorem ofJson_of_decidedBy (decided : DecidedBy members key value) :
    ofJson (.object members) = (form? key value).getD (.unrecognized (.object members)) := by
  rw [ofJson_object, deciding?_eq_some_iff.2 decided]
  rfl

/-- An object without any of the keys is kept as it is. -/
theorem ofJson_of_undecided (none : ∀ key ∈ decidingKeys, members.lookup key = none) :
    ofJson (.object members) = .unrecognized (.object members) := by
  rw [ofJson_object, deciding?_eq_none_iff.2 none]
  rfl

/-- What fits a key is a validator of a known form. -/
theorem recognised_of_form? {validator : Validator} (fits : form? key value = some validator) :
    validator.Recognised := by
  rintro payload rfl
  rw [form?.eq_def] at fits
  split at fits <;> simp at fits

/-- Either the value under the deciding key fits, or the object is kept as it is. -/
theorem ofJson_object_cases (members : List (String × Value)) :
    (∃ key value, DecidedBy members key value ∧
      form? key value = some (ofJson (.object members))) ∨
    ofJson (.object members) = .unrecognized (.object members) := by
  cases decides : deciding? members with
  | none => exact .inr (ofJson_of_undecided (deciding?_eq_none_iff.1 decides))
  | some entry =>
      have decided := deciding?_eq_some_iff.1 decides
      rw [ofJson_of_decidedBy decided]
      cases fits : form? entry.1 entry.2 with
      | none => exact .inr rfl
      | some validator => exact .inl ⟨entry.1, entry.2, decided, fits⟩

/-- What is kept is the value that was read. -/
theorem eq_of_ofJson_eq_unrecognized {payload : Value}
    (kept : ofJson value = .unrecognized payload) : payload = value := by
  cases value with
  | object members =>
      rcases ofJson_object_cases members with ⟨key, value, -, fits⟩ | same
      · exact absurd kept (recognised_of_form? fits payload)
      · rw [kept] at same
        exact unrecognized.inj same
  | null | bool _ | number _ | string _ | array _ =>
      cases kept
      rfl

/-- Objects with the same value under their deciding key are read alike.  If the value is of
the wrong type, either object is kept as it is. -/
theorem ofJson_eq_of_decidedBy (decided : DecidedBy members key value)
    (decided' : DecidedBy members' key value) :
    ((ofJson (.object members)).Recognised →
      ofJson (.object members') = ofJson (.object members)) ∧
    (¬ (ofJson (.object members)).Recognised →
      ofJson (.object members') = .unrecognized (.object members')) := by
  rw [ofJson_of_decidedBy decided, ofJson_of_decidedBy decided']
  cases fits : form? key value with
  | none => exact ⟨fun recognised => absurd rfl (recognised _), fun _ => rfl⟩
  | some validator =>
      exact ⟨fun _ => rfl, fun unrecognised => absurd (recognised_of_form? fits) unrecognised⟩

/-! ## Replacing objects inside of others -/

/-- A value that comes from another one by replacing recognised objects in it.  Each of them
is replaced by one with the same value under the same deciding key, and so may be the objects
around it: they hold it in a step of a chain or as the validator of items. -/
inductive Replaces : Value → Value → Prop
  | same (value : Value) : Replaces value value
  | object {members members' : List (String × Value)} {key : String} {value : Value}
      (decided : DecidedBy members key value) (decided' : DecidedBy members' key value)
      (recognised : (ofJson (.object members)).Recognised) :
      Replaces (.object members) (.object members')
  | chainOf {members members' : List (String × Value)} {steps : List (Value × Value)}
      (decided : DecidedBy members "chainOf" (.array (steps.map (·.1))))
      (decided' : DecidedBy members' "chainOf" (.array (steps.map (·.2))))
      (replaced : ∀ step ∈ steps, Replaces step.1 step.2) :
      Replaces (.object members) (.object members')
  | each {members members' : List (String × Value)} {item item' : Value}
      (decided : DecidedBy members "each" item) (decided' : DecidedBy members' "each" item')
      (replaced : Replaces item item') : Replaces (.object members) (.object members')

/-- Replacing objects does not change what a value is read as. -/
theorem Replaces.ofJson_eq (replaces : Replaces value value') : ofJson value' = ofJson value := by
  induction replaces with
  | same value => rfl
  | object decided decided' recognised =>
      exact (ofJson_eq_of_decidedBy decided decided').1 recognised
  | @chainOf members members' steps decided decided' _ ih =>
      have stepsEqual : (steps.map (·.2)).map ofJson = (steps.map (·.1)).map ofJson := by
        rw [List.map_map, List.map_map]
        exact List.map_congr_left ih
      rw [ofJson_of_decidedBy decided, ofJson_of_decidedBy decided']
      show Validator.chainOf _ = Validator.chainOf _
      rw [stepsEqual]
  | each decided decided' _ ih =>
      rw [ofJson_of_decidedBy decided, ofJson_of_decidedBy decided']
      show Validator.each _ = Validator.each _
      rw [ih]

/-- What an object is read as depends on its deciding key and the value under it, on nothing
else in the object: either the value fits the key, or the object is kept as it is, whatever
other keys it has.  An object without a deciding key is kept, too.  Replacing recognised
objects inside of others changes neither what these are read as nor their type. -/
theorem ofJson_decided :
    (∀ members, (∃ key value, DecidedBy members key value) ∨
      (∀ key ∈ decidingKeys, members.lookup key = none) ∧
        ofJson (.object members) = .unrecognized (.object members)) ∧
    (∀ members members' key value, DecidedBy members key value → DecidedBy members' key value →
      ((ofJson (.object members)).Recognised →
        ofJson (.object members') = ofJson (.object members)) ∧
      (¬ (ofJson (.object members)).Recognised →
        ofJson (.object members') = .unrecognized (.object members'))) ∧
    ∀ value value', Replaces value value' →
      ofJson value' = ofJson value ∧ (ofJson value').resolve = (ofJson value).resolve := by
  refine ⟨?_, ?_, ?_⟩
  · intro members
    cases decided : deciding? members with
    | some entry => exact .inl ⟨entry.1, entry.2, deciding?_eq_some_iff.1 decided⟩
    | none =>
        have undecided := deciding?_eq_none_iff.1 decided
        exact .inr ⟨undecided, ofJson_of_undecided undecided⟩
  · intro members members' key value decided decided'
    exact ofJson_eq_of_decidedBy decided decided'
  · intro value value' replaces
    have equal := replaces.ofJson_eq
    exact ⟨equal, by rw [equal]⟩

/-- A chain whose second step is another object, with the same items in yet another one, and
an object in which a key of less weight does not help. -/
theorem ofJson_decided_of_chain :
    let item : Value := .object [("oneOfNodeTypes", .strings ["Leaf"]), ("oneOf", .bool true)]
    let item' : Value := .object [("each", .null), ("oneOfNodeTypes", .strings ["Leaf"])]
    let chain : Value :=
      .object [("chainOf", .array [.object [("type", .string "array")], .object [("each", item)]])]
    let chain' : Value :=
      .object [("note", .null), ("chainOf", .array
        [.object [("type", .string "array")], .object [("each", item'), ("note", .null)]])]
    let wrong : List (String × Value) := [("type", .null), ("each", item)]
    let wrong' : List (String × Value) := [("oneOf", .array []), ("type", .null)]
    Replaces chain chain' ∧ ofJson chain' = ofJson chain ∧
      (ofJson chain').resolve = .ok (.readOnlyArray (.nodeRef "Leaf")) ∧
      ofJson (.object wrong) = .unrecognized (.object wrong) ∧
      ofJson (.object wrong') = .unrecognized (.object wrong') := by
  intro item item' chain chain' wrong wrong'
  have decides : ∀ {members key value}, deciding? members = some (key, value) →
      DecidedBy members key value := deciding?_eq_some_iff.1
  have recognised : (ofJson item).Recognised := by
    intro payload
    show Validator.oneOfNodeTypes ["Leaf"] ≠ .unrecognized payload
    simp
  have items : Replaces item item' := .object (decides rfl) (decides rfl) recognised
  have steps : ∀ step ∈
      [(Value.object [("type", .string "array")], Value.object [("type", .string "array")]),
        (Value.object [("each", item)], Value.object [("each", item'), ("note", .null)])],
      Replaces step.1 step.2 := by
    intro step member
    rcases List.mem_cons.1 member with rfl | last
    · exact .same _
    · obtain rfl := List.mem_singleton.1 last
      exact .each (decides rfl) (decides rfl) items
  have replaces : Replaces chain chain' := .chainOf (decides rfl) (decides rfl) steps
  obtain ⟨-, alike, within⟩ := ofJson_decided
  obtain ⟨equal, sameType⟩ := within chain chain' replaces
  have unfit : ¬ (ofJson (.object wrong)).Recognised := fun recognised => recognised _ rfl
  have kept := (alike wrong wrong' "type" .null (decides rfl) (decides rfl)).2 unfit
  exact ⟨replaces, equal, sameType, rfl, kept⟩

end NodeDecl.Validator
