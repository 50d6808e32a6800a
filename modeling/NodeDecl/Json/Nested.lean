import NodeDecl.Json.Reader

/-!
# Limited nesting

Lists and objects may be nested only so deep. A reader of something that may hold
them is a function of the number of levels that are left, and each opening
bracket takes one.
-/

namespace NodeDecl.Json

variable {α : Type}

/-- Whether a character opens a list or an object. -/
def isBracket (c : Char) : Bool :=
  c = '[' || c = '{'

namespace Reader

/-- The reader that accepts nothing. -/
def refuse (failure : List Char → Failure) : Reader α where
  run text := .error (failure text)
  consumes accepted := by simp at accepted

/-- A reader for each character that opens a list or an object, and another one
for all other texts. Without a level of nesting left every opening bracket is
refused. -/
def dispatch (opens : Char → Bool) (body? : Option (Char → Reader α)) (other : Reader α) :
    Reader α where
  run text :=
    match dropBlank text with
    | [] => other.run []
    | c :: rest =>
        if opens c then
          match body? with
          | none => .error (.on .recursionLimit (c :: rest))
          | some body => (body c).run rest
        else other.run (c :: rest)
  consumes {text _ _} accepted := by
    have blank := dropBlank_length_le text
    split at accepted
    · simpa using other.consumes accepted
    · next c behind front =>
      rw [front, List.length_cons] at blank
      split at accepted
      · split at accepted
        · simp at accepted
        · next body =>
          exact Nat.lt_of_lt_of_le (Nat.lt_succ_of_lt ((body c).consumes accepted)) blank
      · exact Nat.lt_of_lt_of_le (other.consumes accepted) blank

/-- The reader of something with brackets, as a function of the levels of nesting
that are left. -/
def nested (opens : Char → Bool) (body : Nat → Char → Reader α) (other : Reader α) :
    Nat → Reader α
  | 0 => dispatch opens none other
  | levels + 1 => dispatch opens (some (body levels)) other

end Reader

end NodeDecl.Json
