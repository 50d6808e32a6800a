import NodeDecl.Json.Nested
import NodeDecl.Json.Scalar
import NodeDecl.OrderedMap

/-!
# Reading objects

An object is read member by member. What a member does is decided by its key: it
is refused at once, or its value is read and taken up into what the members before
have made. `readMap` is the plain case, where every member is kept.
-/

namespace NodeDecl.Json

variable {α σ : Type}

/-- What becomes of a member when its key is known. -/
inductive Member (σ : Type) where
  /-- The key is refused before its value is looked at. -/
  | refused (reason : Reason)
  /-- The value is read and taken up, or refused. -/
  | value (reader : Reader (Except Reason σ))

/-- The key at the front of a member. -/
def memberKey : List Char → Outcome (Option String)
  | '"' :: rest => (stringBody.run rest).map some
  | text => .error (.on .keyMustBeString text)

theorem memberKey_length_lt {text rest : List Char} {key : Option String}
    (accepted : memberKey text = .ok (key, rest)) : rest.length < text.length := by
  unfold memberKey at accepted
  split at accepted
  · obtain ⟨_, inner, _⟩ := Outcome.map_eq_ok accepted
    exact Nat.lt_succ_of_lt (stringBody.consumes inner)
  · simp at accepted

/-- The next key of an object and the text behind it, or `none` and the text behind
the closing bracket. -/
def memberStart (isFirst : Bool) (text : List Char) : Outcome (Option String) :=
  match dropBlank text with
  | [] => .error (.on .endOfObject [])
  | '}' :: rest => .ok (none, rest)
  | c :: rest =>
      if isFirst then memberKey (c :: rest)
      else if c = ',' then
        match dropBlank rest with
        | [] => .error (.on .endOfValue [])
        | '}' :: behind => .error (.on .trailingComma ('}' :: behind))
        | next => memberKey next
      else .error (.on .expectedObjectCommaOrEnd (c :: rest))

theorem memberStart_length_lt {isFirst : Bool} {text rest : List Char} {key : Option String}
    (accepted : memberStart isFirst text = .ok (key, rest)) : rest.length < text.length := by
  have blank := dropBlank_length_le text
  unfold memberStart at accepted
  split at accepted
  · simp at accepted
  · next front =>
    rw [front] at blank
    simp only [Except.ok.injEq, Prod.mk.injEq] at accepted
    exact accepted.2 ▸ blank
  · next c behind _ front =>
    rw [front] at blank
    split at accepted
    · exact Nat.lt_of_lt_of_le (memberKey_length_lt accepted) blank
    · split at accepted
      · split at accepted
        · simp at accepted
        · simp at accepted
        · exact Nat.lt_of_lt_of_le (memberKey_length_lt accepted)
            (Nat.le_trans (dropBlank_length_le behind) (Nat.le_of_succ_le blank))
      · simp at accepted

/-- The failure of an object that is refused for its content. It is reported behind
the object if the object ends there, and otherwise at the next token. -/
def settled (reason : Reason) (text : List Char) : Failure :=
  match dropBlank text with
  | '}' :: rest => .before reason rest
  | rest => .before reason rest

@[simp] theorem settled_reason (reason : Reason) (text : List Char) :
    (settled reason text).reason = reason := by
  unfold settled
  split <;> rfl

/-- The part of a member behind its key. -/
def memberValue (key : String) (reader : Reader (Except Reason σ)) (text : List Char) :
    Outcome σ :=
  match colon (dropBlank text) with
  | .error failure => .error failure
  | .ok ((), rest) =>
      match (reader.within (.key key)).run rest with
      | .error failure => .error failure
      | .ok (.ok state, behind) => .ok (state, behind)
      | .ok (.error reason, behind) => .error (settled reason behind)

theorem memberValue_length_lt {key : String} {reader : Reader (Except Reason σ)}
    {text rest : List Char} {state : σ}
    (accepted : memberValue key reader text = .ok (state, rest)) :
    rest.length < text.length := by
  unfold memberValue at accepted
  split at accepted
  · simp at accepted
  · next separated =>
    split at accepted
    · simp at accepted
    · next inner =>
      simp only [Except.ok.injEq, Prod.mk.injEq] at accepted
      exact accepted.2 ▸ Nat.lt_trans (Reader.consumes _ inner)
        (Nat.lt_of_lt_of_le (colon_length_lt separated) (dropBlank_length_le text))
    · simp at accepted

/-- One turn of reading an object: whether it is the first, and what the members so
far have made. -/
def memberStep (take : σ → String → Member σ) (state : Bool × σ) :
    Reader ((Bool × σ) ⊕ σ) where
  run text :=
    match memberStart state.1 text with
    | .error failure => .error (failure.within .unknown)
    | .ok (none, rest) => .ok (.inr state.2, rest)
    | .ok (some key, rest) =>
        match take state.2 key with
        | .refused reason => .error (settled reason rest)
        | .value reader => Outcome.map (fun next => .inl (false, next)) (memberValue key reader rest)
  consumes {text _ _} accepted := by
    split at accepted
    · simp at accepted
    · next start =>
      simp only [Except.ok.injEq, Prod.mk.injEq] at accepted
      exact accepted.2 ▸ memberStart_length_lt start
    · next start =>
      split at accepted
      · simp at accepted
      · obtain ⟨_, inner, _⟩ := Outcome.map_eq_ok accepted
        exact Nat.lt_trans (memberValue_length_lt inner) (memberStart_length_lt start)

/-- The part of an object behind its opening bracket. -/
def objectBody (take : σ → String → Member σ) (start : σ) : Reader σ :=
  .loop (memberStep take) (true, start)

/-- Take up every member. -/
def takeEntry (value : Reader α) (map : OrderedMap α) (key : String) : Member (OrderedMap α) :=
  .value (value.map fun read => .ok (map.insert key read))

/-- The part of an object behind its opening bracket, with values of one type. -/
def mapBody (value : Reader α) : Reader (OrderedMap α) :=
  objectBody (takeEntry value) ∅

/-- An object with values of one type. A key that comes again keeps its place and
changes its value. -/
def readMap (value : Nat → Reader α) : Nat → Reader (OrderedMap α) :=
  .nested (· = '{') (fun levels _ => mapBody (value levels)) (.refuse (mismatch "a map"))

end NodeDecl.Json
