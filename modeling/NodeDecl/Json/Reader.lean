import NodeDecl.Json.Failure

/-!
# Readers

A reader takes a value off the front of a text. Whatever it accepts it has
consumed at least one character, and this fact is part of its type: it is what
makes repetition end. `Reader.iterate` is the only loop of this library that
reads; strings, lists, objects and skipped values are all instances of it.
-/

namespace NodeDecl.Json

/-- A value and the text behind it, or a failure. -/
abbrev Outcome (α : Type) := Except Failure (α × List Char)

variable {α β σ : Type}

/-- Change the value of an outcome. -/
def Outcome.map (change : α → β) : Outcome α → Outcome β
  | .ok (value, rest) => .ok (change value, rest)
  | .error failure => .error failure

theorem Outcome.map_eq_ok {change : α → β} {outcome : Outcome α} {value : β} {rest : List Char}
    (accepted : outcome.map change = .ok (value, rest)) :
    ∃ inner, outcome = .ok (inner, rest) ∧ change inner = value := by
  cases outcome with
  | error failure => simp [Outcome.map] at accepted
  | ok result =>
    obtain ⟨inner, behind⟩ := result
    simp only [Outcome.map, Except.ok.injEq, Prod.mk.injEq] at accepted
    exact ⟨inner, by rw [accepted.2], accepted.1⟩

/-- A reader of values that never succeeds without consuming text. -/
structure Reader (α : Type) where
  run : List Char → Outcome α
  consumes : ∀ {text value rest}, run text = .ok (value, rest) → rest.length < text.length

namespace Reader

/-- The reader that changes the values of another one. -/
def map (change : α → β) (reader : Reader α) : Reader β where
  run text :=
    match reader.run text with
    | .ok (value, rest) => .ok (change value, rest)
    | .error failure => .error failure
  consumes {text value rest} accepted := by
    split at accepted
    · next inner =>
      simp only [Except.ok.injEq, Prod.mk.injEq] at accepted
      exact accepted.2 ▸ reader.consumes inner
    · simp at accepted

/-- The reader whose failures lie one step inside another value. -/
def within (segment : Segment) (reader : Reader α) : Reader α where
  run text :=
    match reader.run text with
    | .ok result => .ok result
    | .error failure => .error (failure.within segment)
  consumes {text value rest} accepted := by
    split at accepted
    · next inner =>
      rw [Except.ok.inj accepted] at inner
      exact reader.consumes inner
    · simp at accepted

/-- Read again and again, carrying a state, until a step gives a result. -/
def iterate (step : σ → Reader (σ ⊕ α)) (state : σ) (text : List Char) : Outcome α :=
  match accepted : (step state).run text with
  | .error failure => .error failure
  | .ok (.inr value, rest) => .ok (value, rest)
  | .ok (.inl next, rest) =>
    have := (step state).consumes accepted
    iterate step next rest
termination_by text.length

/-- One turn of the loop. -/
theorem iterate_eq (step : σ → Reader (σ ⊕ α)) (state : σ) (text : List Char) :
    iterate step state text =
      match (step state).run text with
      | .error failure => .error failure
      | .ok (.inr value, rest) => .ok (value, rest)
      | .ok (.inl next, rest) => iterate step next rest := by
  rw [iterate]
  split <;> simp_all

/-- A loop consumes what its steps consume. -/
theorem iterate_consumes (step : σ → Reader (σ ⊕ α)) (state : σ) (text : List Char)
    {value : α} {rest : List Char} (accepted : iterate step state text = .ok (value, rest)) :
    rest.length < text.length := by
  fun_induction iterate step state text with
  | case1 => simp at accepted
  | case2 state text last behind inner =>
    simp only [Except.ok.injEq, Prod.mk.injEq] at accepted
    exact accepted.2 ▸ (step state).consumes inner
  | case3 state text next behind inner shorter ih =>
    exact Nat.lt_trans (ih accepted) shorter

/-- The loop as a reader. -/
def loop (step : σ → Reader (σ ⊕ α)) (start : σ) : Reader α where
  run := iterate step start
  consumes := iterate_consumes step start _

end Reader

/-- Blanks between the tokens of a JSON text. -/
def isBlank (c : Char) : Bool :=
  c = ' ' || c = '\n' || c = '\t' || c = '\r'

/-- The text from its first character on that is not blank. -/
def dropBlank (text : List Char) : List Char :=
  text.dropWhile isBlank

/-- Dropping blanks lengthens no text. -/
theorem dropBlank_length_le (text : List Char) : (dropBlank text).length ≤ text.length :=
  (List.dropWhile_sublist isBlank).length_le

/-- The colon behind a key. -/
def colon : List Char → Outcome Unit
  | [] => .error (.on .endOfObject [])
  | ':' :: rest => .ok ((), rest)
  | text => .error (.on .expectedColon text)

theorem colon_length_lt {text rest : List Char}
    (accepted : colon text = .ok ((), rest)) : rest.length < text.length := by
  unfold colon at accepted
  split at accepted
  · simp at accepted
  · simp only [Except.ok.injEq, Prod.mk.injEq, true_and] at accepted
    rw [← accepted]
    simp
  · simp at accepted

end NodeDecl.Json
