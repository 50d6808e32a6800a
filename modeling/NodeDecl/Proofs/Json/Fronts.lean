import NodeDecl.Proofs.Json.Skipped
import NodeDecl.Proofs.Json.Verdicts

/-!
# Readers take a front

Whatever a reader accepts, it has taken one well-formed value off the front of the text,
and it would have taken the same value from the same front with anything else behind it.
For a value that ends by itself, with a bracket, there is no condition on what stands behind;
for a number it has to be a delimiter, and inside a list it is one, since the reading goes on
there.
-/

namespace NodeDecl.Json

variable {α β σ : Type}

/-! ## Laws of readers -/

/-- A reader takes a text for a value, whatever blanks stand in front and whatever stands
behind. -/
structure ReadsAlways (reader : Reader α) (text : List Char) (value : α) : Prop where
  opens : Opens text
  run : ∀ gap rest, Blank gap → reader.run (gap ++ (text ++ rest)) = .ok (value, rest)

theorem ReadsAlways.readsBack {reader : Reader α} {text : List Char} {value : α}
    (reads : ReadsAlways reader text value) : ReadsBack reader text value where
  opens := reads.opens
  run gap rest blank _ := reads.run gap rest blank

theorem ReadsAlways.map {reader : Reader α} {text : List Char} {value : α}
    (reads : ReadsAlways reader text value) (change : α → β) :
    ReadsAlways (reader.map change) text (change value) where
  opens := reads.opens
  run gap rest blank := by
    rw [Reader.run_map, reads.run gap rest blank]
    rfl

namespace Reader

/-- What a reader takes in front of a delimiter is a well-formed value behind blanks, which it
takes for the same in front of every delimiter. -/
def Sound (reader : Reader α) : Prop :=
  ∀ whole value rest, reader.run whole = .ok (value, rest) → Delimited rest →
    ∃ gap text, Blank gap ∧ WellFormed text ∧ ReadsBack reader text value ∧
      whole = gap ++ (text ++ rest)

/-- What a reader takes is a list or an object behind blanks, which it takes for the same
whatever stands behind. -/
def Closed (reader : Reader α) : Prop :=
  ∀ whole value rest, reader.run whole = .ok (value, rest) →
    ∃ gap text, Blank gap ∧ Enclosed text ∧ ReadsAlways reader text value ∧
      whole = gap ++ (text ++ rest)

/-- What a reader takes behind an opening bracket is the rest of a well-formed value, which it
takes for the same whatever stands behind. -/
def SoundInside (opening : Char) (reader : Reader α) : Prop :=
  ∀ whole value rest, reader.run whole = .ok (value, rest) →
    ∃ text, WellFormed (opening :: text) ∧ ReadsInside reader text value ∧ whole = text ++ rest

variable {reader : Reader α} {whole rest : List Char}

theorem map_eq_ok {change : α → β} {value : β}
    (accepted : (reader.map change).run whole = .ok (value, rest)) :
    ∃ inner, reader.run whole = .ok (inner, rest) ∧ change inner = value :=
  Outcome.map_eq_ok (run_map reader change whole ▸ accepted)

theorem within_eq_ok {segment : Segment} {value : α}
    (accepted : (reader.within segment).run whole = .ok (value, rest)) :
    reader.run whole = .ok (value, rest) := by
  rw [within] at accepted
  simp only at accepted
  split at accepted
  · next inner => rw [inner, Except.ok.inj accepted]
  · cases accepted

theorem Sound.map (sound : reader.Sound) (change : α → β) : (reader.map change).Sound := by
  intro whole value rest accepted delimited
  rcases map_eq_ok accepted with ⟨inner, read, rfl⟩
  rcases sound whole inner rest read delimited with ⟨gap, text, blank, wellFormed, reads, same⟩
  exact ⟨gap, text, blank, wellFormed, reads.map change, same⟩

theorem Closed.map (closed : reader.Closed) (change : α → β) : (reader.map change).Closed := by
  intro whole value rest accepted
  rcases map_eq_ok accepted with ⟨inner, read, rfl⟩
  rcases closed whole inner rest read with ⟨gap, text, blank, enclosed, reads, same⟩
  exact ⟨gap, text, blank, enclosed, reads.map change, same⟩

theorem SoundInside.map {opening : Char} (sound : reader.SoundInside opening) (change : α → β) :
    (reader.map change).SoundInside opening := by
  intro whole value rest accepted
  rcases map_eq_ok accepted with ⟨inner, read, rfl⟩
  rcases sound whole inner rest read with ⟨text, wellFormed, reads, same⟩
  exact ⟨text, wellFormed, reads.map change, same⟩

theorem Closed.sound (closed : reader.Closed) : reader.Sound := by
  intro whole value rest accepted _
  rcases closed whole value rest accepted with ⟨gap, text, blank, enclosed, reads, same⟩
  exact ⟨gap, text, blank, enclosed.wellFormed, reads.readsBack, same⟩

/-- A sound reader reads a text back as a value exactly if it accepts the text as that value
and leaves nothing of it. -/
theorem Sound.readsBack_iff (sound : reader.Sound) {text : List Char} {value : α} :
    ReadsBack reader text value ↔ Opens text ∧ reader.run text = .ok (value, []) := by
  constructor
  · intro reads
    have run := reads.run_append delimited_nil
    rw [List.append_nil] at run
    exact ⟨reads.opens, run⟩
  · intro ⟨opens, accepted⟩
    rcases sound text value [] accepted delimited_nil with ⟨gap, front, blank, -, reads, same⟩
    rcases opens with ⟨c, behind, rfl, token⟩
    -- a text that opens has no blanks in front
    cases gap with
    | nil => rwa [same, List.append_nil]
    | cons first gap =>
        have isBlank := blank first List.mem_cons_self
        rw [← (List.cons.inj same).1, isBlank_of_opens token] at isBlank
        cases isBlank

/-- The same change of what a sound reader takes comes from one value. -/
theorem Sound.map_readsBack (sound : reader.Sound) {change : α → β} {text : List Char} {value : β}
    (reads : ReadsBack (reader.map change) text value) :
    ∃ inner, ReadsBack reader text inner ∧ change inner = value := by
  rcases (sound.map change).readsBack_iff.1 reads with ⟨opens, accepted⟩
  rcases map_eq_ok accepted with ⟨inner, read, same⟩
  exact ⟨inner, sound.readsBack_iff.2 ⟨opens, read⟩, same⟩

/-! ## Brackets and scalars -/

variable {opens : Char → Bool} {other : Reader α}

/-- What is accepted where brackets are told apart begins with one that is allowed, or is left
to the other reader. -/
theorem dispatch_eq_ok {body? : Option (Char → Reader α)} {value : α}
    (accepted : (dispatch opens body? other).run whole = .ok (value, rest)) :
    (∃ gap c behind body, Blank gap ∧ whole = gap ++ c :: behind ∧ opens c = true ∧
        body? = some body ∧ (body c).run behind = .ok (value, rest)) ∨
      other.run (dropBlank whole) = .ok (value, rest) := by
  rw [dispatch] at accepted
  simp only at accepted
  split at accepted
  · next front =>
    rw [front]
    exact .inr accepted
  · next c behind front =>
    split at accepted
    · next bracket =>
      split at accepted
      · cases accepted
      · next body =>
        rcases exists_blank whole with ⟨gap, blank, cut⟩
        rw [front] at cut
        exact .inl ⟨gap, c, behind, body, blank, cut, bracket, rfl, accepted⟩
    · rw [front]
      exact .inr accepted

/-- What is read behind an allowed bracket is read with the bracket, whatever stands behind. -/
theorem readsAlways_dispatch {body : Char → Reader α} {opening : Char} {text : List Char}
    {value : α} (bracket : opens opening = true) (wellFormed : WellFormed (opening :: text))
    (inside : ReadsInside (body opening) text value) :
    ReadsAlways (dispatch opens (some body) other) (opening :: text) value where
  opens := wellFormed.passes.opens
  run gap rest blank := by
    have token : isDelimiter opening = false := by
      rcases wellFormed.passes.opens with ⟨_, _, same, token⟩
      cases same
      exact token
    rw [List.cons_append, dispatch_run bracket token blank, inside rest]

/-- Where nothing but brackets is accepted, what is taken ends by itself. -/
theorem nested_closed {body : Nat → Char → Reader α} {failure : List Char → Failure}
    (brackets : ∀ c, opens c = true → isBracket c = true)
    (inside : ∀ levels c, opens c = true → (body levels c).SoundInside c) (levels : Nat) :
    (nested opens body (refuse failure) levels).Closed := by
  intro whole value rest accepted
  cases levels with
  | zero =>
      rw [nested] at accepted
      rcases dispatch_eq_ok accepted with ⟨_, _, _, _, _, _, _, none, _⟩ | refused
      · cases none
      · cases refused
  | succ levels =>
      rw [nested] at accepted ⊢
      rcases dispatch_eq_ok accepted with
        ⟨gap, c, behind, _, blank, rfl, bracket, equal, read⟩ | refused
      · cases equal
        rcases inside levels c bracket behind value rest read with ⟨text, wellFormed, reads, rfl⟩
        exact ⟨gap, c :: text, blank, ⟨wellFormed, c, text, rfl, brackets c bracket⟩,
          readsAlways_dispatch bracket wellFormed reads, rfl⟩
      · cases refused

end Reader

open Reader

variable {whole rest : List Char}

theorem readScalar_sound (expected : String) (pick : Value → Option α) :
    (readScalar expected pick).Sound := by
  intro whole value rest accepted delimited
  rw [readScalar] at accepted
  simp only at accepted
  split at accepted
  · next found =>
    split at accepted
    · next picked =>
      cases accepted
      rcases scalar?_takes found delimited with ⟨text, denotes, wellFormed, cut⟩
      rcases exists_blank whole with ⟨gap, blank, same⟩
      rw [cut] at same
      exact ⟨gap, text, blank, wellFormed, denotes.readScalar expected picked, same⟩
    · cases accepted
  · cases accepted

theorem readString_sound : readString.Sound := readScalar_sound _ _

theorem readBool_sound : readBool.Sound := readScalar_sound _ _

theorem skip_sound : skip.Sound := by
  intro whole _ rest accepted _
  rcases skip_takes accepted with ⟨gap, text, blank, wellFormed, same⟩
  exact ⟨gap, text, blank, wellFormed, wellFormed.readsBack, same⟩

/-! ## Parts with commas between them -/

/-- What stands in front of a part: blanks in front of the first one, and a comma in front of
any other. -/
inductive StartText : Bool → List Char → Prop
  | first {gap : List Char} (blank : Blank gap) : StartText true gap
  | next {before after : List Char} (beforeBlank : Blank before) (afterBlank : Blank after) :
      StartText false (before ++ ',' :: after)

/-- Some parts and the bracket that closes them, from the first part on or behind one. -/
def PartsText (isFirst : Bool) (closing : Char) (parts : List (List Char)) (text : List Char) :
    Prop :=
  match isFirst with
  | true => BodyText closing parts text
  | false => TailText closing parts text

namespace PartsText

variable {isFirst : Bool} {closing : Char} {start gap part text : List Char}
  {parts : List (List Char)}

theorem close (isFirst : Bool) (closing : Char) (blank : Blank gap) :
    PartsText isFirst closing [] (gap ++ [closing]) := by
  cases isFirst with
  | true => exact BodyText.empty blank
  | false => exact TailText.close blank

/-- One part more in front. -/
theorem more (begins : StartText isFirst start) (blank : Blank gap)
    (tail : PartsText false closing parts text) :
    PartsText isFirst closing (part :: parts) (start ++ (gap ++ (part ++ text))) := by
  cases begins with
  | @first front frontBlank =>
      rw [← List.append_assoc]
      exact BodyText.parts (List.forall_mem_append.2 ⟨frontBlank, blank⟩) tail
  | @next before after beforeBlank afterBlank =>
      rw [List.append_assoc, List.cons_append, ← List.append_assoc after]
      exact TailText.more beforeBlank (List.forall_mem_append.2 ⟨afterBlank, blank⟩) tail

/-- Without parts there is a closing bracket. -/
theorem eq_close (parts : PartsText isFirst closing [] text) :
    ∃ gap, Blank gap ∧ text = gap ++ [closing] := by
  cases isFirst with
  | true =>
      cases parts with
      | empty blank => exact ⟨_, blank, rfl⟩
  | false =>
      cases parts with
      | close blank => exact ⟨_, blank, rfl⟩

/-- A part stands behind a start, and the others follow. -/
theorem eq_more (whole : PartsText isFirst closing (part :: parts) text) :
    ∃ start tail, StartText isFirst start ∧ PartsText false closing parts tail ∧
      text = start ++ (part ++ tail) := by
  cases isFirst with
  | true =>
      cases whole with
      | parts blank tail => exact ⟨_, _, .first blank, tail, rfl⟩
  | false =>
      cases whole with
      | more beforeBlank afterBlank tail =>
          refine ⟨_, _, .next beforeBlank afterBlank, tail, ?_⟩
          rw [List.append_assoc, List.cons_append]

/-- Behind a part there is a delimiter. -/
theorem delimited (closes : isDelimiter closing = true)
    (tail : PartsText false closing parts text) (rest : List Char) : Delimited (text ++ rest) :=
  TailText.delimited tail closes rest

end PartsText

/-! ## Lists -/

theorem itemStart_eq_end {isFirst : Bool} (accepted : itemStart isFirst whole = .ok (false, rest)) :
    ∃ gap, Blank gap ∧ whole = gap ++ ']' :: rest := by
  rcases exists_blank whole with ⟨gap, blank, cut⟩
  refine ⟨gap, blank, ?_⟩
  rw [itemStart] at accepted
  split at accepted
  · cases accepted
  · next front =>
    cases accepted
    rwa [front] at cut
  · split at accepted
    · cases accepted
    · split at accepted
      · split at accepted <;> cases accepted
      · cases accepted

theorem itemStart_eq_more {isFirst : Bool}
    (accepted : itemStart isFirst whole = .ok (true, rest)) :
    ∃ start, StartText isFirst start ∧ whole = start ++ rest := by
  rcases exists_blank whole with ⟨gap, blank, cut⟩
  rw [itemStart] at accepted
  split at accepted
  · cases accepted
  · cases accepted
  · next c behind _ front =>
    rw [front] at cut
    cases isFirst with
    | true =>
        cases accepted
        exact ⟨gap, .first blank, cut⟩
    | false =>
        rw [if_neg Bool.false_ne_true] at accepted
        split at accepted
        · next comma =>
          subst comma
          rcases exists_blank behind with ⟨after, afterBlank, behindCut⟩
          split at accepted
          · cases accepted
          · cases accepted
          · cases accepted
            refine ⟨_, .next blank afterBlank, ?_⟩
            rw [cut, List.append_assoc, List.cons_append, ← behindCut]
        · cases accepted

/-- An item is found behind the start of a part. -/
theorem StartText.itemStart {isFirst : Bool} {start text : List Char}
    (begins : StartText isFirst start) (opens : Opens text) (rest : List Char) :
    Json.itemStart isFirst (start ++ (text ++ rest)) = .ok (true, text ++ rest) := by
  cases begins with
  | first blank => exact itemStart_first blank opens rest
  | next beforeBlank afterBlank =>
      rw [List.append_assoc, List.cons_append]
      exact itemStart_next beforeBlank afterBlank opens rest

section

variable {item : Reader α} {sofar values : List α}

/-- A turn of reading a list ends the list or reads an item. -/
theorem itemStep_eq_ok {result : List α ⊕ List α}
    (accepted : (itemStep item sofar).run whole = .ok (result, rest)) :
    (itemStart sofar.isEmpty whole = .ok (false, rest) ∧ result = .inr sofar.reverse) ∨
      ∃ front value, itemStart sofar.isEmpty whole = .ok (true, front) ∧
        item.run front = .ok (value, rest) ∧ result = .inl (value :: sofar) := by
  rw [itemStep] at accepted
  simp only at accepted
  split at accepted
  · cases accepted
  · next ends =>
    cases accepted
    exact .inl ⟨ends, rfl⟩
  · next front start =>
    rcases Outcome.map_eq_ok accepted with ⟨value, read, rfl⟩
    exact .inr ⟨front, value, start, within_eq_ok read, rfl⟩

/-- The items of a list from some point on are what their reader takes. -/
theorem iterate_itemStep_takes (sound : item.Sound)
    (accepted : Reader.iterate (itemStep item) sofar whole = .ok (values, rest)) :
    ∃ parts others text, List.Forall₂ (ReadsBack item) parts others ∧
      (∀ part ∈ parts, WellFormed part) ∧ PartsText sofar.isEmpty ']' parts text ∧
      whole = text ++ rest ∧ values = sofar.reverse ++ others := by
  fun_induction Reader.iterate (itemStep item) sofar whole with
  | case1 => cases accepted
  | case2 sofar whole last behind turn =>
      cases accepted
      rcases itemStep_eq_ok turn with ⟨ends, equal⟩ | ⟨_, _, _, _, absurdity⟩
      · cases equal
        rcases itemStart_eq_end ends with ⟨gap, blank, rfl⟩
        exact ⟨[], [], gap ++ [']'], .nil, by simp, .close _ _ blank, by simp, by simp⟩
      · cases absurdity
  | case3 sofar whole next behind turn shorter ih =>
      rcases itemStep_eq_ok turn with ⟨_, absurdity⟩ | ⟨front, value, start, read, equal⟩
      · cases absurdity
      · cases equal
        rcases ih accepted with ⟨parts, others, text, reads, wellFormed, tail, rfl, rfl⟩
        rcases sound _ _ _ read (tail.delimited rfl rest) with
          ⟨gap, part, blank, isValue, readsBack, rfl⟩
        rcases itemStart_eq_more start with ⟨begins, starts, rfl⟩
        refine ⟨part :: parts, value :: others, begins ++ (gap ++ (part ++ text)),
          .cons readsBack reads, List.forall_mem_cons.2 ⟨isValue, wellFormed⟩,
          .more starts blank tail, ?_, ?_⟩
        · simp only [List.append_assoc]
        · rw [List.reverse_cons, List.append_assoc, List.singleton_append]

theorem listBody_soundInside (sound : item.Sound) : (listBody item).SoundInside '[' := by
  intro whole values rest accepted
  rcases iterate_itemStep_takes sound accepted with
    ⟨parts, others, text, reads, wellFormed, body, same, rfl⟩
  exact ⟨text, .array wellFormed body, listBody_bodyText reads body, same⟩

end

theorem readList_closed {item : Nat → Reader α} (sound : ∀ levels, (item levels).Sound)
    (levels : Nat) : (readList item levels).Closed := by
  apply nested_closed
  · intro c bracket
    rw [of_decide_eq_true bracket]
    rfl
  · intro levels c bracket
    rw [of_decide_eq_true bracket]
    exact listBody_soundInside (sound levels)

theorem readStrings_closed (levels : Nat) : (readStrings levels).Closed :=
  readList_closed (fun _ => readString_sound) levels

end NodeDecl.Json
