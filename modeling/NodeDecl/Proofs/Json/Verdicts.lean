import NodeDecl.Proofs.Json.Reading

/-!
# Where reading fails

A text may hold values that are not what a reader asks for.  Reading then fails at the first
of them, and the failure has the path of that value.  Lists and objects pass this on: what is
wrong inside an item is wrong in the list, one segment further down, and what stands behind
the first failure is never looked at.
-/

namespace NodeDecl.Json

variable {α β σ : Type}

/-- What reading comes to if the values at some paths are not what is asked for.  If there are
none it goes on behind the text, and otherwise it fails at the first of them. -/
def EndsAt (rest : List Char) (outcome : Outcome α) : List (List Segment) → Prop
  | [] => ∃ value, outcome = .ok (value, rest)
  | first :: _ => ∃ failure, outcome = .error failure ∧ failure.path = first

theorem EndsAt.map {rest : List Char} {outcome : Outcome α} {paths : List (List Segment)}
    (ends : EndsAt rest outcome paths) (change : α → β) :
    EndsAt rest (outcome.map change) paths := by
  cases paths with
  | nil =>
      obtain ⟨value, rfl⟩ := ends
      exact ⟨change value, rfl⟩
  | cons first others =>
      obtain ⟨failure, rfl, path⟩ := ends
      exact ⟨failure, rfl, path⟩

theorem Reader.run_map (reader : Reader α) (change : α → β) (text : List Char) :
    (reader.map change).run text = (reader.run text).map change := by
  rw [Reader.map]
  dsimp only
  cases reader.run text with
  | ok result => rfl
  | error failure => rfl

/-- A reader takes a text, up to a delimiter, except for the values at some paths. -/
structure Judges (reader : Reader α) (text : List Char) (paths : List (List Segment)) :
    Prop where
  opens : Opens text
  run : ∀ gap rest, Blank gap → Delimited rest →
    EndsAt rest (reader.run (gap ++ (text ++ rest))) paths

/-- A reader takes a text, whatever stands behind it, except for the values at some paths. -/
def JudgesInside (reader : Reader α) (text : List Char) (paths : List (List Segment)) : Prop :=
  ∀ rest, EndsAt rest (reader.run (text ++ rest)) paths

theorem JudgesInside.map {reader : Reader α} {text : List Char} {paths : List (List Segment)}
    (judges : JudgesInside reader text paths) (change : α → β) :
    JudgesInside (reader.map change) text paths := by
  intro rest
  rw [Reader.run_map]
  exact (judges rest).map change

/-- A text that is read back has nothing wrong in it. -/
theorem ReadsBack.judges {reader : Reader α} {text : List Char} {value : α}
    (reads : ReadsBack reader text value) : Judges reader text [] where
  opens := reads.opens
  run gap rest blank delimited := ⟨value, reads.run gap rest blank delimited⟩

namespace Judges

variable {reader : Reader α} {text : List Char} {paths : List (List Segment)}

/-- Without blanks in front. -/
theorem run_append (judges : Judges reader text paths) {rest : List Char}
    (delimited : Delimited rest) : EndsAt rest (reader.run (text ++ rest)) paths :=
  judges.run [] rest blank_nil delimited

theorem map (judges : Judges reader text paths) (change : α → β) :
    Judges (reader.map change) text paths where
  opens := judges.opens
  run gap rest blank delimited := by
    rw [Reader.run_map]
    exact (judges.run gap rest blank delimited).map change

/-- What is wrong inside brackets is wrong in the whole. -/
theorem dispatch {opens : Char → Bool} {body : Char → Reader α} {other : Reader α}
    {opening : Char} (bracket : opens opening = true) (token : isDelimiter opening = false)
    (inside : JudgesInside (body opening) text paths) :
    Judges (.dispatch opens (some body) other) (opening :: text) paths where
  opens := opens_cons token text
  run gap rest blank _ := by
    rw [List.cons_append, dispatch_run bracket token blank]
    exact inside rest

/-- A document with nothing wrong in it is accepted, and another one is refused with the path
of the first value that is wrong. -/
theorem parse {reader : Nat → Reader α} (judges : Judges (reader nestingLimit) text paths)
    {before after : List Char} (blank : Blank before) (delimited : Delimited after) :
    (∃ value, paths = [] ∧
      Json.parse reader (String.ofList (before ++ (text ++ after))) = .ok value) ∨
    ∃ error others, paths = error.path :: others ∧
      Json.parse reader (String.ofList (before ++ (text ++ after))) = .error error := by
  have ends := judges.run before after blank delimited
  rw [Json.parse, String.toList_ofList]
  cases paths with
  | nil =>
      obtain ⟨value, accepted⟩ := ends
      exact .inl ⟨value, rfl, by rw [accepted]⟩
  | cons first others =>
      obtain ⟨failure, refused, rfl⟩ := ends
      exact .inr ⟨_, others, rfl, by rw [refused]⟩

end Judges

/-! ## Values of another kind -/

section

variable {text rest : List Char} {value : Value}

/-- A scalar that stands in the wrong place is read before it is refused. -/
theorem Denotes.mismatch (denotes : Denotes text value) (delimited : Delimited rest)
    (expected : String) :
    Json.mismatch expected (text ++ rest) =
      .before (.invalidType (.scalar value) expected) rest := by
  have scalar := denotes.scalar rest delimited
  obtain ⟨c, behind, rfl, -, other⟩ := denotes.opens
  rw [List.cons_append] at scalar ⊢
  rw [mismatch.eq_def]
  split
  · contradiction
  · next equal =>
      cases equal
      contradiction
  · next equal =>
      cases equal
      contradiction
  · rw [scalar]

namespace TreeText

theorem opens (spelled : TreeText value text) : Opens text :=
  spelled.wellFormed.passes.opens

/-- A value that stands in the wrong place is refused where it is. -/
theorem mismatch_path (spelled : TreeText value text) (delimited : Delimited rest)
    (expected : String) : (mismatch expected (text ++ rest)).path = [] := by
  cases scalar : value.isScalar with
  | true => rw [(spelled.denotes scalar).mismatch delimited]; rfl
  | false =>
      cases spelled with
      | array _ _ => rfl
      | object _ _ _ => rfl
      | null | bool _ | number _ _ | string _ => contradiction

/-- No scalar begins with a bracket. -/
theorem isBracket_eq_false (spelled : TreeText value text) (scalar : value.isScalar = true)
    {c : Char} {behind : List Char} (first : text = c :: behind) : isBracket c = false := by
  obtain ⟨c', behind', equal, -, other⟩ := (spelled.denotes scalar).opens
  rw [first] at equal
  cases equal
  exact other

/-- The first character of a value tells a list and an object. -/
theorem front (spelled : TreeText value text) {c : Char} {behind : List Char}
    (first : text = c :: behind) :
    (c = '[' → ∃ items, value = .array items) ∧ (c = '{' → ∃ members, value = .object members) := by
  cases scalar : value.isScalar with
  | true =>
      have other := spelled.isBracket_eq_false scalar first
      rw [isBracket, Bool.or_eq_false_iff, decide_eq_false_iff_not,
        decide_eq_false_iff_not] at other
      exact ⟨fun opening => absurd opening other.1, fun opening => absurd opening other.2⟩
  | false =>
      cases spelled with
      | array _ _ =>
          cases first
          exact ⟨fun _ => ⟨_, rfl⟩, by simp⟩
      | object _ _ _ =>
          cases first
          exact ⟨by simp, fun _ => ⟨_, rfl⟩⟩
      | null | bool _ | number _ _ | string _ => contradiction

/-- A value that does not begin with the right bracket is refused. -/
theorem judges_nested (spelled : TreeText value text) {opens : Char → Bool}
    {body : Nat → Char → Reader α} {levels : Nat} {expected : String}
    (other : ∀ c behind, text = c :: behind → opens c = false) :
    Judges (.nested opens body (.refuse (mismatch expected)) levels) text [[]] where
  opens := spelled.opens
  run gap rest blank delimited := by
    have path := spelled.mismatch_path delimited expected
    obtain ⟨c, behind, rfl, token⟩ := spelled.opens
    have front : dropBlank (gap ++ (c :: behind ++ rest)) = c :: (behind ++ rest) :=
      dropBlank_token (isBlank_of_opens token) blank _
    refine ⟨_, ?_, path⟩
    cases levels with
    | zero =>
        rw [Reader.nested, Reader.dispatch]
        simp only [front, other c behind rfl, Bool.false_eq_true, if_false]
        rfl
    | succ levels =>
        rw [Reader.nested, Reader.dispatch]
        simp only [front, other c behind rfl, Bool.false_eq_true, if_false]
        rfl

end TreeText

end

/-! ## Lists -/

section

variable {item : Reader α} {text whole rest last : List Char} {paths more : List (List Segment)}

/-- What is wrong in an item comes before what is wrong behind it. -/
theorem itemStep_ends {sofar : List α}
    (start : itemStart sofar.isEmpty whole = .ok (true, text ++ rest))
    (judges : Judges item text paths) (delimited : Delimited rest)
    (others : ∀ value, EndsAt last (Reader.iterate (itemStep item) (value :: sofar) rest) more) :
    EndsAt last (Reader.iterate (itemStep item) sofar whole)
      (paths.map (.index sofar.length :: ·) ++ more) := by
  have ends := judges.run_append delimited
  rw [Reader.iterate_eq]
  cases paths with
  | nil =>
      obtain ⟨value, accepted⟩ := ends
      rw [itemStep_run start accepted]
      exact others value
  | cons first _ =>
      obtain ⟨failure, refused, rfl⟩ := ends
      refine ⟨failure.within (.index sofar.length), ?_, rfl⟩
      rw [itemStep]
      simp only [start, Reader.within, refused, Outcome.map]

variable {items : List (β × List Char)} {wrong : β → List (List Segment)}

theorem iterate_itemStep_ends (judges : ∀ part ∈ items, Judges item part.2 (wrong part.1))
    (tail : TailText ']' (items.map (·.2)) text) {sofar : List α}
    (begun : sofar.isEmpty = false) :
    EndsAt rest (Reader.iterate (itemStep item) sofar (text ++ rest))
      (((items.map (·.1)).zipIdx sofar.length).flatMap fun part =>
        (wrong part.1).map (.index part.2 :: ·)) := by
  -- The position of an item is the number of items that the loop has kept before it.
  induction items generalizing text sofar with
  | nil =>
      cases tail with
      | close blank =>
          rw [List.append_assoc, List.singleton_append, Reader.iterate_eq,
            itemStep_end (itemStart_end _ blank rest)]
          exact ⟨_, rfl⟩
  | cons part items ih =>
      obtain ⟨first, others⟩ := List.forall_mem_cons.1 judges
      cases tail with
      | @more _ _ _ text _ beforeBlank afterBlank tail =>
          have start := itemStart_next beforeBlank afterBlank first.opens (text ++ rest)
          rw [← begun] at start
          simp only [List.append_assoc, List.cons_append]
          apply itemStep_ends start first (tail.delimited rfl rest)
          intro value
          exact ih others tail rfl

/-- What is wrong in a list is what is wrong in its items, from the first to the last. -/
theorem listBody_judges (judges : ∀ part ∈ items, Judges item part.2 (wrong part.1))
    (body : BodyText ']' (items.map (·.2)) text) :
    JudgesInside (listBody item) text
      ((items.map (·.1)).zipIdx.flatMap fun part => (wrong part.1).map (.index part.2 :: ·)) := by
  intro rest
  show EndsAt rest (Reader.iterate (itemStep item) [] _) _
  cases items with
  | nil =>
      cases body with
      | empty blank =>
          rw [List.append_assoc, List.singleton_append, Reader.iterate_eq,
            itemStep_end (itemStart_end _ blank rest)]
          exact ⟨_, rfl⟩
  | cons part items =>
      obtain ⟨first, others⟩ := List.forall_mem_cons.1 judges
      cases body with
      | @parts gap _ text _ blank tail =>
          have start : itemStart ([] : List α).isEmpty (gap ++ (part.2 ++ (text ++ rest))) =
              .ok (true, part.2 ++ (text ++ rest)) := itemStart_first blank first.opens _
          simp only [List.append_assoc]
          apply itemStep_ends start first (tail.delimited rfl rest)
          intro value
          exact iterate_itemStep_ends others tail rfl

end

/-! ## Objects -/

section

variable {take : σ → String → Member σ} {state : σ} {name : String}
  {text whole rest last : List Char} {paths more : List (List Segment)}

/-- A failure inside a value is one in the member. -/
theorem memberValue_error {key : String} {reader : Reader (Except Reason σ)} {gap : List Char}
    {failure : Failure} (refused : reader.run text = .error failure) (blank : Blank gap) :
    memberValue key reader (gap ++ ':' :: text) = .error (failure.within (.key key)) := by
  rw [memberValue, dropBlank_token rfl blank, colon]
  simp only [Reader.within, refused]

/-- What is wrong in a member comes before what is wrong behind it. -/
theorem memberStep_ends {isFirst : Bool} {member : MemberText} {holds : σ → Prop}
    {reader : Reader (Except Reason σ)}
    (start : memberStart isFirst whole = .ok (some name, member.beforeColon ++
      ':' :: (member.afterColon ++ (member.value ++ rest))))
    (takes : take state name = .value reader) (judges : Judges reader member.value paths)
    (yields : reader.Yields fun result => ∃ next, result = .ok next ∧ holds next)
    (delimited : Delimited rest)
    (others : ∀ next, holds next →
      EndsAt last (Reader.iterate (memberStep take) (false, next) rest) more) :
    EndsAt last (Reader.iterate (memberStep take) (isFirst, state) whole)
      (paths.map (.key name :: ·) ++ more) := by
  have ends := judges.run _ rest member.afterColon_blank delimited
  rw [Reader.iterate_eq]
  cases paths with
  | nil =>
      obtain ⟨result, accepted⟩ := ends
      obtain ⟨next, rfl, still⟩ := yields _ _ _ accepted
      rw [memberStep_run start takes accepted]
      exact others next still
  | cons first _ =>
      obtain ⟨failure, refused, rfl⟩ := ends
      refine ⟨failure.within (.key name), ?_, rfl⟩
      rw [memberStep]
      simp only [start, takes, memberValue_error refused member.beforeColon_blank, Outcome.map]

/-- An object takes up members whose values may be wrong, as long as their names are awaited.
Whatever a member makes of the object, the names behind it are awaited still. -/
def TakesUp (take : σ → String → Member σ) (awaits : σ → List String → Prop) (name : String)
    (text : List Char) (paths : List (List Segment)) : Prop :=
  ∀ state names, awaits state (name :: names) →
    ∃ reader, take state name = .value reader ∧ Judges reader text paths ∧
      reader.Yields fun result => ∃ next, result = .ok next ∧ awaits next names

variable {awaits : σ → List String → Prop} {members : List ((String × β) × MemberText)}
  {wrong : String × β → List (List Segment)}

theorem iterate_memberStep_ends
    (keys : ∀ member ∈ members, StringText member.1.1 member.2.key)
    (takes : ∀ member ∈ members,
      TakesUp take awaits member.1.1 member.2.value (wrong member.1))
    (awaited : awaits state (members.map (·.1.1)))
    (tail : TailText '}' (members.map (·.2.text)) text) :
    EndsAt rest (Reader.iterate (memberStep take) (false, state) (text ++ rest))
      ((members.map (·.1)).flatMap fun entry => (wrong entry).map (.key entry.1 :: ·)) := by
  -- What a member makes of the object is any state in which the names behind it are awaited.
  induction members generalizing state text with
  | nil =>
      cases tail with
      | close blank =>
          rw [List.append_assoc, List.singleton_append, Reader.iterate_eq,
            memberStep_end (memberStart_end _ blank rest)]
          exact ⟨_, rfl⟩
  | cons member members ih =>
      obtain ⟨key, keys⟩ := List.forall_mem_cons.1 keys
      obtain ⟨first, others⟩ := List.forall_mem_cons.1 takes
      obtain ⟨reader, taken, judges, yields⟩ := first _ _ awaited
      cases tail with
      | more beforeBlank afterBlank tail =>
          simp only [MemberText.text, List.append_assoc, List.cons_append]
          have start := memberStart_next beforeBlank afterBlank key
          apply memberStep_ends (start _) taken judges yields (tail.delimited rfl rest)
          intro next still
          exact ih keys others still tail

/-- What is wrong in an object is what is wrong in its members, from the first to the last. -/
theorem objectBody_judges
    (keys : ∀ member ∈ members, StringText member.1.1 member.2.key)
    (takes : ∀ member ∈ members,
      TakesUp take awaits member.1.1 member.2.value (wrong member.1))
    (awaited : awaits state (members.map (·.1.1)))
    (body : BodyText '}' (members.map (·.2.text)) text) :
    JudgesInside (objectBody take state) text
      ((members.map (·.1)).flatMap fun entry => (wrong entry).map (.key entry.1 :: ·)) := by
  intro rest
  show EndsAt rest (Reader.iterate (memberStep take) (true, state) _) _
  cases members with
  | nil =>
      cases body with
      | empty blank =>
          rw [List.append_assoc, List.singleton_append, Reader.iterate_eq,
            memberStep_end (memberStart_end _ blank rest)]
          exact ⟨_, rfl⟩
  | cons member members =>
      obtain ⟨key, keys⟩ := List.forall_mem_cons.1 keys
      obtain ⟨first, others⟩ := List.forall_mem_cons.1 takes
      obtain ⟨reader, taken, judges, yields⟩ := first _ _ awaited
      cases body with
      | parts blank tail =>
          simp only [MemberText.text, List.append_assoc, List.cons_append]
          have start := memberStart_first blank key
          apply memberStep_ends (start _) taken judges yields (tail.delimited rfl rest)
          intro next still
          exact iterate_memberStep_ends keys others still tail

end

end NodeDecl.Json
