import NodeDecl.Json.Record
import NodeDecl.Proofs.Json.Fronts

/-!
# Objects and records take a front

An object that is accepted is a list of members whose values their readers have taken, and a
record that is accepted as a list is filled by the items of the list, one for each of its first
fields.  Both end with their own bracket, so nothing that stands behind them matters.
-/

namespace NodeDecl.Json

open Reader

variable {α σ : Type} {whole rest : List Char}

/-! ## Objects -/

theorem memberKey_takes {key : Option String} (accepted : memberKey whole = .ok (key, rest)) :
    ∃ name text, key = some name ∧ StringText name text ∧ whole = text ++ rest := by
  rw [memberKey.eq_def] at accepted
  split at accepted
  · rcases Outcome.map_eq_ok accepted with ⟨name, inner, rfl⟩
    rcases stringBody_takes inner with ⟨text, chars, rfl⟩
    exact ⟨name, _, rfl, .intro chars, rfl⟩
  · cases accepted

/-- An object is closed, or it goes on with a key. -/
theorem memberStart_eq_ok {isFirst : Bool} {key : Option String}
    (accepted : memberStart isFirst whole = .ok (key, rest)) :
    (key = none ∧ ∃ gap, Blank gap ∧ whole = gap ++ '}' :: rest) ∨
      ∃ name start text, key = some name ∧ StartText isFirst start ∧ StringText name text ∧
        whole = start ++ (text ++ rest) := by
  rcases exists_blank whole with ⟨gap, blank, cut⟩
  rw [memberStart] at accepted
  split at accepted
  · cases accepted
  · next front =>
    cases accepted
    rw [front] at cut
    exact .inl ⟨rfl, gap, blank, cut⟩
  · next c behind _ front =>
    right
    rw [front] at cut
    cases isFirst with
    | true =>
        rcases memberKey_takes accepted with ⟨name, text, rfl, spelled, same⟩
        exact ⟨name, gap, text, rfl, .first blank, spelled, by rw [cut, same]⟩
    | false =>
        rw [if_neg Bool.false_ne_true] at accepted
        split at accepted
        · next comma =>
          subst comma
          rcases exists_blank behind with ⟨after, afterBlank, behindCut⟩
          split at accepted
          · cases accepted
          · cases accepted
          · rcases memberKey_takes accepted with ⟨name, text, rfl, spelled, same⟩
            refine ⟨name, _, text, rfl, .next blank afterBlank, spelled, ?_⟩
            rw [cut, behindCut, same, List.append_assoc, List.cons_append]
        · cases accepted

section

variable {take : σ → String → Member σ} {state next last : σ} {isFirst : Bool}

/-- The value of a member is read behind a colon. -/
theorem memberValue_eq_ok {key : String} {reader : Reader (Except Reason σ)}
    (accepted : memberValue key reader whole = .ok (next, rest)) :
    ∃ gap behind, Blank gap ∧ whole = gap ++ ':' :: behind ∧
      reader.run behind = .ok (.ok next, rest) := by
  rcases exists_blank whole with ⟨gap, blank, cut⟩
  rw [memberValue] at accepted
  split at accepted
  · cases accepted
  · next behind separated =>
    split at accepted
    · cases accepted
    · next read =>
      cases accepted
      rw [colon_eq_ok separated] at cut
      exact ⟨gap, behind, blank, cut, within_eq_ok read⟩
    · cases accepted

/-- A turn of reading an object ends the object or reads a member. -/
theorem memberStep_eq_ok {result : (Bool × σ) ⊕ σ}
    (accepted : (memberStep take (isFirst, state)).run whole = .ok (result, rest)) :
    (memberStart isFirst whole = .ok (none, rest) ∧ result = .inr state) ∨
      ∃ name reader behind next, memberStart isFirst whole = .ok (some name, behind) ∧
        take state name = .value reader ∧ memberValue name reader behind = .ok (next, rest) ∧
        result = .inl (false, next) := by
  rw [memberStep] at accepted
  simp only at accepted
  split at accepted
  · cases accepted
  · next ends =>
    cases accepted
    exact .inl ⟨ends, rfl⟩
  · next name behind start =>
    split at accepted
    · cases accepted
    · next reader taken =>
      rcases Outcome.map_eq_ok accepted with ⟨next, read, rfl⟩
      exact .inr ⟨name, reader, behind, next, start, taken, read, rfl⟩

/-- An object whose members are read by sound readers. -/
def TakesSound (take : σ → String → Member σ) : Prop :=
  ∀ state name reader, take state name = .value reader → reader.Sound

/-- The members of an object from some point on are taken up one after the other. -/
theorem iterate_memberStep_takes (sound : TakesSound take)
    (accepted : Reader.iterate (memberStep take) (isFirst, state) whole = .ok (last, rest)) :
    ∃ (members : List (String × MemberText)) (text : List Char),
      (∀ member ∈ members, StringText member.1 member.2.key) ∧
      (∀ member ∈ members, WellFormed member.2.value) ∧
      Gathers take state (members.map fun member => (member.1, member.2.value)) last ∧
      PartsText isFirst '}' (members.map (·.2.text)) text ∧ whole = text ++ rest := by
  induction length : whole.length using Nat.strongRecOn generalizing whole isFirst state with
  | ind size ih =>
      rw [Reader.iterate_eq] at accepted
      split at accepted
      · cases accepted
      · next turn =>
        cases accepted
        rcases memberStep_eq_ok turn with ⟨ends, equal⟩ | ⟨_, _, _, _, _, _, _, absurdity⟩
        · cases equal
          rcases memberStart_eq_ok ends with ⟨-, gap, blank, rfl⟩ | ⟨_, _, _, absurdity, _⟩
          · exact ⟨[], gap ++ ['}'], by simp, by simp, .none _, .close _ _ blank, by simp⟩
          · cases absurdity
        · cases absurdity
      · next next behind turn =>
        have shorter := (memberStep take (isFirst, state)).consumes turn
        rcases memberStep_eq_ok turn with
          ⟨_, absurdity⟩ | ⟨name, reader, value, next, start, taken, read, equal⟩
        · cases absurdity
        · cases equal
          rcases ih _ (length ▸ shorter) accepted rfl with
            ⟨members, text, named, wellFormed, gathers, tail, rfl⟩
          rcases memberValue_eq_ok read with ⟨before, front, beforeBlank, rfl, inner⟩
          rcases sound _ _ _ taken _ _ _ inner (tail.delimited rfl rest) with
            ⟨after, part, afterBlank, isValue, readsBack, rfl⟩
          rcases memberStart_eq_ok start with
            ⟨absurdity, _⟩ | ⟨_, begins, key, equal, starts, spelled, rfl⟩
          · cases absurdity
          · cases equal
            let member : MemberText :=
              { key, beforeColon := before, afterColon := after, value := part
                beforeColon_blank := beforeBlank, afterColon_blank := afterBlank }
            refine ⟨(name, member) :: members, begins ++ ([] ++ (member.text ++ text)),
              List.forall_mem_cons.2 ⟨spelled, named⟩,
              List.forall_mem_cons.2 ⟨isValue, wellFormed⟩, .more taken readsBack gathers,
              .more starts blank_nil tail, ?_⟩
            simp only [member, MemberText.text, List.nil_append, List.append_assoc,
              List.cons_append]

/-- Members whose names are kept make an object, too. -/
theorem wellFormed_object {members : List (String × MemberText)} {text : List Char}
    (named : ∀ member ∈ members, StringText member.1 member.2.key)
    (wellFormed : ∀ member ∈ members, WellFormed member.2.value)
    (body : BodyText '}' (members.map (·.2.text)) text) : WellFormed ('{' :: text) := by
  have whole : members.map (·.2.text) = (members.map (·.2)).map (·.text) := by
    rw [List.map_map]
    rfl
  refine .object (List.forall_mem_map.2 fun member inside => ?_)
    (List.forall_mem_map.2 wellFormed) (whole ▸ body)
  exact (named member inside).loose

theorem objectBody_soundInside (sound : TakesSound take) (start : σ) :
    (objectBody take start).SoundInside '{' := by
  intro whole last rest accepted
  rcases iterate_memberStep_takes sound accepted with
    ⟨members, text, named, wellFormed, gathers, body, same⟩
  exact ⟨text, wellFormed_object named wellFormed body, objectBody_bodyText named gathers body,
    same⟩

end

theorem takeEntry_sound {reader : Reader α} (sound : reader.Sound) :
    TakesSound (takeEntry reader) := by
  intro map name taken equal
  cases equal
  exact sound.map _

/-- An object ends by itself. -/
theorem object_closed {take : Nat → σ → String → Member σ} {start : σ}
    {failure : List Char → Failure} (sound : ∀ levels, TakesSound (take levels)) (levels : Nat) :
    (Reader.nested (· = '{') (fun inner _ => objectBody (take inner) start) (.refuse failure)
      levels).Closed := by
  apply nested_closed
  · intro c bracket
    rw [of_decide_eq_true bracket]
    rfl
  · intro inner c bracket
    rw [of_decide_eq_true bracket]
    exact objectBody_soundInside (sound inner) start

theorem readMap_closed {value : Nat → Reader α} (sound : ∀ levels, (value levels).Sound)
    (levels : Nat) : (readMap value levels).Closed :=
  object_closed (fun inner => takeEntry_sound (sound inner)) levels

/-! ## Values of any kind -/

/-- A scalar is taken where anything may stand. -/
theorem readAnyScalar_takes {value : Value} (body? : Option (Char → Reader Value))
    (accepted : readAnyScalar.run (dropBlank whole) = .ok (value, rest))
    (delimited : Delimited rest) :
    ∃ gap text, Blank gap ∧ WellFormed text ∧
      ReadsBack (.dispatch isBracket body? readAnyScalar) text value ∧
      whole = gap ++ (text ++ rest) := by
  rw [readAnyScalar] at accepted
  simp only at accepted
  split at accepted
  · next found =>
    subst accepted
    rcases scalar?_takes found delimited with ⟨text, denotes, wellFormed, cut⟩
    rcases exists_blank whole with ⟨gap, blank, same⟩
    rw [cut] at same
    exact ⟨gap, text, blank, wellFormed, denotes.dispatch body?, same⟩
  · cases accepted

theorem valueBody_soundInside {inside : Reader Value} (sound : inside.Sound) {opening : Char}
    (bracket : isBracket opening = true) : (valueBody inside opening).SoundInside opening := by
  rw [valueBody]
  split
  · next list =>
    rw [list]
    exact (listBody_soundInside sound).map _
  · next object =>
    rw [isBracket, Bool.or_eq_true, decide_eq_true_eq, decide_eq_true_eq] at bracket
    rw [bracket.resolve_left object]
    exact (objectBody_soundInside (takeEntry_sound sound) ∅).map _

theorem readValue_sound (levels : Nat) : (readValue levels).Sound := by
  induction levels with
  | zero =>
      intro whole value rest accepted delimited
      rw [readValue] at accepted ⊢
      rcases dispatch_eq_ok accepted with ⟨_, _, _, _, _, _, _, absurdity, _⟩ | scalar
      · cases absurdity
      · exact readAnyScalar_takes none scalar delimited
  | succ levels ih =>
      intro whole value rest accepted delimited
      rw [readValue] at accepted ⊢
      rcases dispatch_eq_ok accepted with
        ⟨gap, c, behind, _, blank, rfl, bracket, equal, read⟩ | scalar
      · cases equal
        rcases valueBody_soundInside ih bracket behind value rest read with
          ⟨text, wellFormed, reads, rfl⟩
        exact ⟨gap, c :: text, blank, wellFormed,
          (readsAlways_dispatch bracket wellFormed reads).readsBack, rfl⟩
      · exact readAnyScalar_takes _ scalar delimited

/-! ## Records -/

namespace Record

/-- Texts for the first fields of a record, in their order, each read back as the change that
its field makes, and the record that the changes lead to.  The other fields stay as they
are. -/
inductive Fills (levels : Nat) : List (RecordField σ) → σ → List (List Char) → σ → Prop
  | none (fields : List (RecordField σ)) (state : σ) : Fills levels fields state [] state
  | more {field : RecordField σ} {fields : List (RecordField σ)} {state last : σ}
      {text : List Char} {texts : List (List Char)} {change : σ → σ}
      (reads : ReadsBack (field.reader levels) text change)
      (others : Fills levels fields (change state) texts last) :
      Fills levels (field :: fields) state (text :: texts) last

variable {fields : List (RecordField σ)} {levels position : Nat} {start state last : σ}

theorem listEnd_append {gap : List Char} (blank : Blank gap) (rest : List Char) :
    listEnd (gap ++ ']' :: rest) = .ok ((), rest) := by
  rw [listEnd, dropBlank_token rfl blank]
  rfl

theorem listEnd_eq_ok (accepted : listEnd whole = .ok ((), rest)) :
    ∃ gap, Blank gap ∧ whole = gap ++ ']' :: rest := by
  rcases exists_blank whole with ⟨gap, blank, cut⟩
  rw [listEnd] at accepted
  split at accepted
  · cases accepted
  · next front =>
    cases accepted
    rw [front] at cut
    exact ⟨gap, blank, cut⟩
  · split at accepted <;> cases accepted
  · cases accepted

/-- The items of a list fill the first fields of a record. -/
theorem takeItems_takes (sound : ∀ field ∈ fields, (field.reader levels).Sound)
    (accepted : takeItems levels position state fields whole = .ok (last, rest)) :
    ∃ texts text, Fills levels fields state texts last ∧ (∀ part ∈ texts, WellFormed part) ∧
      PartsText (position = 0) ']' texts text ∧ whole = text ++ rest := by
  induction fields generalizing position state whole with
  | nil =>
      rcases Outcome.map_eq_ok accepted with ⟨_, ends, rfl⟩
      rcases listEnd_eq_ok ends with ⟨gap, blank, rfl⟩
      exact ⟨[], gap ++ [']'], .none _ _, by simp, .close _ _ blank, by simp⟩
  | cons field fields ih =>
      rcases List.forall_mem_cons.1 sound with ⟨first, others⟩
      rw [takeItems] at accepted
      split at accepted
      · cases accepted
      · next ends =>
        cases accepted
        rcases itemStart_eq_end ends with ⟨gap, blank, rfl⟩
        exact ⟨[], gap ++ [']'], .none _ _, by simp, .close _ _ blank, by simp⟩
      · next front startsItem =>
        split at accepted
        · cases accepted
        · next change behind read =>
          rcases ih others accepted with ⟨texts, text, fills, wellFormed, tail, rfl⟩
          rw [decide_eq_false (Nat.succ_ne_zero position)] at tail
          rcases first _ _ _ (within_eq_ok read) (tail.delimited rfl rest) with
            ⟨gap, part, blank, isValue, readsBack, rfl⟩
          rcases itemStart_eq_more startsItem with ⟨begins, starts, rfl⟩
          refine ⟨part :: texts, begins ++ (gap ++ (part ++ text)), .more readsBack fills,
            List.forall_mem_cons.2 ⟨isValue, wellFormed⟩, .more starts blank tail, ?_⟩
          simp only [List.append_assoc]

/-- Texts that fill the first fields of a record are taken from a list. -/
theorem Fills.takeItems {texts : List (List Char)} {text : List Char}
    (fills : Fills levels fields state texts last)
    (parts : PartsText (position = 0) ']' texts text) (rest : List Char) :
    Record.takeItems levels position state fields (text ++ rest) = .ok (last, rest) := by
  induction fills generalizing position text with
  | none fields state =>
      rcases parts.eq_close with ⟨gap, blank, rfl⟩
      rw [List.append_assoc, List.singleton_append]
      cases fields with
      | nil => rw [Record.takeItems, listEnd_append blank]; rfl
      | cons field fields => rw [Record.takeItems, itemStart_end _ blank]
  | more reads _ ih =>
      rcases parts.eq_more with ⟨start, tail, begins, others, rfl⟩
      have read := reads.run_append (others.delimited rfl rest)
      simp only [List.append_assoc]
      rw [Record.takeItems, begins.itemStart reads.opens]
      simp only [within, read]
      apply ih
      rwa [decide_eq_false (Nat.succ_ne_zero position)]

theorem listReader_soundInside (sound : ∀ field ∈ fields, (field.reader levels).Sound) (start : σ) :
    (listReader fields start levels).SoundInside '[' := by
  intro whole last rest accepted
  rcases takeItems_takes sound accepted with ⟨texts, text, fills, wellFormed, body, same⟩
  exact ⟨text, .array wellFormed body, fills.takeItems body, same⟩

/-- A member that is taken up belongs to a field, or is skipped. -/
theorem takeMember_eq_value {key : String} {before : List String × σ}
    {reader : Reader (Except Reason (List String × σ))}
    (taken : takeMember fields levels before key = .value reader) :
    (key ∉ fields.map (·.name) ∧ reader = skip.map fun () => .ok before) ∨
      ∃ field ∈ fields, field.name = key ∧
        reader =
          (field.reader levels).map fun change => .ok (key :: before.1, change before.2) := by
  rw [takeMember] at taken
  split at taken
  · next unknown =>
    cases taken
    exact .inl ⟨by simpa using unknown, rfl⟩
  · next field found =>
    have named := List.find?_some (p := fun field : RecordField σ => field.name = key) found
    split at taken
    · cases taken
    · cases taken
      exact .inr ⟨field, List.mem_of_find?_eq_some found, of_decide_eq_true named, rfl⟩

theorem takeMember_sound (sound : ∀ field ∈ fields, (field.reader levels).Sound) :
    TakesSound (takeMember fields levels) := by
  intro state name reader taken
  rcases takeMember_eq_value taken with ⟨-, rfl⟩ | ⟨field, inside, -, rfl⟩
  · exact skip_sound.map _
  · exact (sound field inside).map _

/-- A record ends by itself in either form. -/
theorem reader_closed {record : Record σ}
    (sound : ∀ field ∈ record.fields, ∀ levels, (field.reader levels).Sound) (start : σ)
    (levels : Nat) : (record.reader start levels).Closed := by
  apply nested_closed fun _ bracket => bracket
  intro levels c bracket
  have fields := fun field member => sound field member levels
  split
  · next list =>
    rw [list]
    exact listReader_soundInside fields start
  · next object =>
    rw [isBracket, Bool.or_eq_true, decide_eq_true_eq, decide_eq_true_eq] at bracket
    rw [bracket.resolve_left object]
    exact (objectBody_soundInside (takeMember_sound fields) _).map _

end Record

end NodeDecl.Json
