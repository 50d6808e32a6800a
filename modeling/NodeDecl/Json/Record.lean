import NodeDecl.Json.List
import NodeDecl.Json.Object
import NodeDecl.Json.Skip

/-!
# Reading records

A record is a type with named fields. A document may give it as an object with
the fields as members, in any order and among others, or as a list of the fields
in the order of their declaration. Either way a field that is not given keeps the
value that it has at the start.
-/

namespace NodeDecl.Json

variable {σ : Type}

/-- A field of a record: its name in documents, and the reader of the change that
its value makes to the record. -/
structure RecordField (σ : Type) where
  name : String
  reader : Nat → Reader (σ → σ)

/-- A type with named fields, in the order of their declaration. -/
structure Record (σ : Type) where
  name : String
  fields : List (RecordField σ)

namespace Record

/-- The end of a list that has an item for every field. -/
def listEnd (text : List Char) : Outcome Unit :=
  match dropBlank text with
  | [] => .error (.on .endOfList [])
  | ']' :: rest => .ok ((), rest)
  | ',' :: rest =>
      match dropBlank rest with
      | ']' :: behind => .error (.on .trailingComma (']' :: behind))
      | behind => .error (.on .trailingCharacters behind)
  | rest => .error (.on .trailingCharacters rest)

theorem listEnd_length_lt {text rest : List Char} (accepted : listEnd text = .ok ((), rest)) :
    rest.length < text.length := by
  have blank := dropBlank_length_le text
  unfold listEnd at accepted
  split at accepted
  · simp at accepted
  · next front =>
    rw [front] at blank
    simp only [Except.ok.injEq, Prod.mk.injEq, true_and] at accepted
    exact accepted ▸ blank
  · split at accepted <;> simp at accepted
  · simp at accepted

/-- The items of a list taken as the fields of a record, from a position on. Fields
behind the end of the list are left as they are. -/
def takeItems (levels position : Nat) (state : σ) : List (RecordField σ) → List Char → Outcome σ
  | [], text => (listEnd text).map fun () => state
  | field :: fields, text =>
      match itemStart (position = 0) text with
      | .error failure => .error failure
      | .ok (false, rest) => .ok (state, rest)
      | .ok (true, front) =>
          match ((field.reader levels).within (.index position)).run front with
          | .error failure => .error failure
          | .ok (change, rest) => takeItems levels (position + 1) (change state) fields rest

theorem takeItems_length_lt {levels position : Nat} {state result : σ} {fields : List (RecordField σ)}
    {text rest : List Char}
    (accepted : takeItems levels position state fields text = .ok (result, rest)) :
    rest.length < text.length := by
  induction fields generalizing position state text with
  | nil =>
    obtain ⟨_, inner, _⟩ := Outcome.map_eq_ok accepted
    exact listEnd_length_lt inner
  | cons field fields ih =>
    rw [takeItems] at accepted
    split at accepted
    · simp at accepted
    · next start =>
      simp only [Except.ok.injEq, Prod.mk.injEq] at accepted
      exact accepted.2 ▸ itemStart_end_length_lt start
    · next start =>
      split at accepted
      · simp at accepted
      · next inner =>
        exact Nat.lt_trans (ih accepted)
          (Nat.lt_of_lt_of_le (Reader.consumes _ inner) (itemStart_length_le start))

/-- The part of a record behind the bracket of its list. -/
def listReader (fields : List (RecordField σ)) (start : σ) (levels : Nat) : Reader σ where
  run := takeItems levels 0 start fields
  consumes := takeItems_length_lt

/-- Take up a member of a record, given the names that have been taken up before.
Members with unknown names are passed over. -/
def takeMember (fields : List (RecordField σ)) (levels : Nat) (state : List String × σ)
    (key : String) : Member (List String × σ) :=
  match fields.find? (·.name = key) with
  | none => .value (skip.map fun () => .ok state)
  | some field =>
      if key ∈ state.1 then .refused (.duplicateField key)
      else .value ((field.reader levels).map fun change => .ok (key :: state.1, change state.2))

section

variable {fields : List (RecordField σ)} {field : RecordField σ} {levels : Nat}
  {state : List String × σ} {key : String}

theorem takeMember_unknown (unknown : fields.find? (·.name = key) = none) :
    takeMember fields levels state key = .value (skip.map fun () => .ok state) := by
  rw [takeMember, unknown]

theorem takeMember_known (known : fields.find? (·.name = key) = some field)
    (fresh : key ∉ state.1) :
    takeMember fields levels state key =
      .value ((field.reader levels).map fun change => .ok (key :: state.1, change state.2)) := by
  rw [takeMember, known]
  exact if_neg fresh

theorem takeMember_again (known : fields.find? (·.name = key) = some field)
    (given : key ∈ state.1) :
    takeMember fields levels state key = .refused (.duplicateField key) := by
  rw [takeMember, known]
  exact if_pos given

end

/-- The part of a record behind the bracket of its object. -/
def objectReader (fields : List (RecordField σ)) (start : σ) (levels : Nat) : Reader σ :=
  (objectBody (takeMember fields levels) ([], start)).map (·.2)

/-- A record in either form. Fields that are not given stay as they are in `start`. -/
def reader (record : Record σ) (start : σ) : Nat → Reader σ :=
  .nested isBracket
    (fun levels opening =>
      if opening = '[' then listReader record.fields start levels
      else objectReader record.fields start levels)
    (.refuse (mismatch ("struct " ++ record.name)))

end Record

end NodeDecl.Json
