import NodeDecl.Proofs.Bindings
import NodeDecl.Proofs.Json.ReadBack

/-!
# Lists and objects are read back

A list is read back if each of its items is, and an object if each of its members is
taken up.  What a member does to the members before it is up to the reader of the
object: `Gathers` follows these states from the first member to the last.
-/

namespace NodeDecl.Json

variable {α β σ : Type}

/-- A reader takes a text for a value, whatever stands behind it. -/
def ReadsInside (reader : Reader α) (text : List Char) (value : α) : Prop :=
  ∀ rest, reader.run (text ++ rest) = .ok (value, rest)

theorem ReadsInside.map {reader : Reader α} {text : List Char} {value : α}
    (reads : ReadsInside reader text value) (change : α → β) :
    ReadsInside (reader.map change) text (change value) := by
  intro rest
  rw [Reader.map]
  simp only [reads rest]

/-- Behind an opening bracket the text is left to the reader of what is inside. -/
theorem dispatch_run {opens : Char → Bool} {body : Char → Reader α} {other : Reader α}
    {opening : Char} {gap : List Char} (bracket : opens opening = true)
    (token : isDelimiter opening = false) (blank : Blank gap) (behind : List Char) :
    (Reader.dispatch opens (some body) other).run (gap ++ opening :: behind) =
      (body opening).run behind := by
  have front : dropBlank (gap ++ opening :: behind) = opening :: behind := by
    rw [dropBlank_append blank, dropBlank_cons (isBlank_of_opens token)]
  rw [Reader.dispatch]
  simp only [front, bracket, if_true]

/-- Something with brackets is read back if its inside is. -/
theorem readsBack_dispatch {opens : Char → Bool} {body : Char → Reader α} {other : Reader α}
    {opening : Char} {text : List Char} {value : α} (bracket : opens opening = true)
    (token : isDelimiter opening = false) (inside : ReadsInside (body opening) text value) :
    ReadsBack (.dispatch opens (some body) other) (opening :: text) value where
  opens := opens_cons token text
  run gap rest blank _ := by
    rw [List.cons_append, dispatch_run bracket token blank, inside rest]

/-! ## Parts with commas between them -/

/-- The ways to go on behind a part of a list or an object: with a comma and another part,
or with the bracket that closes. -/
inductive TailText (closing : Char) : List (List Char) → List Char → Prop
  | close {gap : List Char} (blank : Blank gap) : TailText closing [] (gap ++ [closing])
  | more {before after part text : List Char} {parts : List (List Char)}
      (beforeBlank : Blank before) (afterBlank : Blank after)
      (tail : TailText closing parts text) :
      TailText closing (part :: parts) (before ++ ',' :: (after ++ (part ++ text)))

/-- The ways to write some parts and the bracket that closes them. -/
inductive BodyText (closing : Char) : List (List Char) → List Char → Prop
  | empty {gap : List Char} (blank : Blank gap) : BodyText closing [] (gap ++ [closing])
  | parts {gap part text : List Char} {parts : List (List Char)} (blank : Blank gap)
      (tail : TailText closing parts text) :
      BodyText closing (part :: parts) (gap ++ (part ++ text))

/-- What goes on behind a part begins with a delimiter. -/
theorem TailText.delimited {closing : Char} {parts : List (List Char)} {text : List Char}
    (tail : TailText closing parts text) (closes : isDelimiter closing = true)
    (rest : List Char) : Delimited (text ++ rest) := by
  cases tail with
  | close blank =>
      rw [List.append_assoc]
      exact blank.delimited closes rest
  | more beforeBlank _ _ =>
      rw [List.append_assoc]
      exact beforeBlank.delimited rfl _

theorem tailText_followed (closing : Char) {inner outer : List Char} (innerBlank : Blank inner)
    (outerBlank : Blank outer) (parts : List (List Char)) :
    TailText closing parts (followed closing inner outer [] parts) := by
  induction parts with
  | nil => exact .close outerBlank
  | cons part parts ih => exact .more blank_nil innerBlank ih

/-- Writing chooses one of the ways to write some parts. -/
theorem bodyText_closed (closing : Char) {inner outer : List Char} (innerBlank : Blank inner)
    (outerBlank : Blank outer) (parts : List (List Char)) :
    BodyText closing parts (closed closing inner outer parts) := by
  cases parts with
  | nil => exact .empty blank_nil
  | cons part parts =>
      rw [← List.append_nil (closed _ _ _ _), closed_cons_append]
      exact .parts innerBlank (tailText_followed closing innerBlank outerBlank parts)

/-- A member of an object as it stands in a text. -/
structure MemberText where
  /-- The key with its quotes. -/
  key : List Char
  beforeColon : List Char
  afterColon : List Char
  value : List Char
  beforeColon_blank : Blank beforeColon
  afterColon_blank : Blank afterColon

/-- The whole text of a member. -/
def MemberText.text (member : MemberText) : List Char :=
  member.key ++ (member.beforeColon ++ ':' :: (member.afterColon ++ member.value))

section

variable {gap before after text rest : List Char}

/-- What a text that a value may begin with looks like after dropping blanks. -/
theorem dropBlank_opens (blank : Blank gap) (opens : Opens text) (rest : List Char) :
    ∃ c behind, dropBlank (gap ++ (text ++ rest)) = c :: behind ∧
      c :: behind = text ++ rest ∧ isDelimiter c = false := by
  rcases opens with ⟨c, behind, rfl, token⟩
  refine ⟨c, behind ++ rest, ?_, rfl, token⟩
  rw [dropBlank_append blank, List.cons_append, dropBlank_cons (isBlank_of_opens token)]

/-- A token behind some blanks. -/
theorem dropBlank_token {c : Char} (token : isBlank c = false) (blank : Blank gap)
    (rest : List Char) : dropBlank (gap ++ c :: rest) = c :: rest := by
  rw [dropBlank_append blank, dropBlank_cons token]

/-! ## Lists -/

/-- The first item is behind the blanks. -/
theorem itemStart_first (blank : Blank gap) (opens : Opens text) (rest : List Char) :
    itemStart true (gap ++ (text ++ rest)) = .ok (true, text ++ rest) := by
  rcases dropBlank_opens blank opens rest with ⟨c, behind, front, equal, token⟩
  rw [itemStart, front, ← equal]
  split
  · contradiction
  · next closed =>
      cases closed
      contradiction
  · next same =>
      rw [if_pos rfl, ← same]

/-- A comma has an item behind it. -/
theorem itemStart_comma (blank : Blank before) (behind : List Char) :
    itemStart false (before ++ ',' :: behind) =
      match dropBlank behind with
      | [] => .error (.on .endOfValue [])
      | ']' :: rest => .error (.on .trailingComma (']' :: rest))
      | next => .ok (true, next) := by
  rw [itemStart, dropBlank_token rfl blank]
  rfl

/-- Every other item is behind a comma and the blanks. -/
theorem itemStart_next (beforeBlank : Blank before) (afterBlank : Blank after)
    (opens : Opens text) (rest : List Char) :
    itemStart false (before ++ ',' :: (after ++ (text ++ rest))) = .ok (true, text ++ rest) := by
  rcases dropBlank_opens afterBlank opens rest with ⟨c, behind, front, equal, token⟩
  rw [itemStart_comma beforeBlank, front, ← equal]
  split
  · contradiction
  · next closed =>
      cases closed
      contradiction
  · rfl

/-- The closing bracket is the end. -/
theorem itemStart_end (isFirst : Bool) (blank : Blank gap) (rest : List Char) :
    itemStart isFirst (gap ++ ']' :: rest) = .ok (false, rest) := by
  rw [itemStart, dropBlank_token rfl blank]
  rfl

/-- One item more. -/
theorem itemStep_run {item : Reader α} {sofar : List α} {whole : List Char} {value : α}
    (start : itemStart sofar.isEmpty whole = .ok (true, text ++ rest))
    (read : item.run (text ++ rest) = .ok (value, rest)) :
    (itemStep item sofar).run whole = .ok (.inl (value :: sofar), rest) := by
  rw [itemStep]
  simp only [start, Reader.within, read, Outcome.map]

theorem itemStep_end {item : Reader α} {sofar : List α} {whole : List Char}
    (start : itemStart sofar.isEmpty whole = .ok (false, rest)) :
    (itemStep item sofar).run whole = .ok (.inr sofar.reverse, rest) := by
  rw [itemStep]
  simp only [start]

variable {item : Reader α} {texts : List (List Char)} {values : List α}

/-- The items behind the first are read back one after the other. -/
theorem iterate_itemStep (items : List.Forall₂ (ReadsBack item) texts values)
    (tail : TailText ']' texts text) {sofar : List α} (begun : sofar.isEmpty = false) :
    Reader.iterate (itemStep item) sofar (text ++ rest) =
      .ok (sofar.reverse ++ values, rest) := by
  induction items generalizing text sofar with
  | nil =>
      cases tail with
      | close blank =>
          rw [List.append_assoc, List.singleton_append, Reader.iterate_eq,
            itemStep_end (itemStart_end _ blank rest)]
          simp only [List.append_nil]
  | @cons part value texts values reads _ ih =>
      cases tail with
      | @more _ _ _ text _ beforeBlank afterBlank tail =>
          have start := itemStart_next beforeBlank afterBlank reads.opens (text ++ rest)
          rw [← begun] at start
          simp only [List.append_assoc, List.cons_append]
          rw [Reader.iterate_eq,
            itemStep_run start (reads.run_append (tail.delimited rfl rest))]
          simp only
          rw [ih tail rfl, List.reverse_cons, List.append_assoc, List.singleton_append]

/-- A list behind its opening bracket is read back. -/
theorem listBody_bodyText (items : List.Forall₂ (ReadsBack item) texts values)
    (body : BodyText ']' texts text) : ReadsInside (listBody item) text values := by
  intro rest
  show Reader.iterate (itemStep item) [] _ = _
  cases body with
  | empty blank =>
      cases items
      rw [List.append_assoc, List.singleton_append, Reader.iterate_eq,
        itemStep_end (itemStart_end _ blank rest)]
      rfl
  | @parts gap part text _ blank tail =>
      cases items with
      | cons reads others =>
          have start : itemStart ([] : List α).isEmpty (gap ++ (part ++ (text ++ rest))) =
              .ok (true, part ++ (text ++ rest)) := itemStart_first blank reads.opens _
          simp only [List.append_assoc]
          rw [Reader.iterate_eq,
            itemStep_run start (reads.run_append (tail.delimited rfl rest))]
          exact iterate_itemStep others tail rfl

/-! ## Members -/

/-- A key is read back, however it is written. -/
theorem memberKey_stringText {name : String} (spells : StringText name text) (rest : List Char) :
    memberKey (text ++ rest) = .ok (some name, rest) := by
  obtain ⟨chars⟩ := spells
  rw [List.cons_append, memberKey, stringBody_charsText chars]
  rfl

/-- Blanks in front of a key are dropped. -/
theorem dropBlank_stringText {name : String} (blank : Blank gap) (spells : StringText name text)
    (rest : List Char) :
    dropBlank (gap ++ (text ++ rest)) = text ++ rest := by
  obtain ⟨chars⟩ := spells
  exact dropBlank_token rfl blank _

/-- The first key is behind the blanks. -/
theorem memberStart_first {name : String} (blank : Blank gap) (spells : StringText name text)
    (rest : List Char) :
    memberStart true (gap ++ (text ++ rest)) = .ok (some name, rest) := by
  rw [memberStart, dropBlank_stringText blank spells]
  obtain ⟨chars⟩ := spells
  exact memberKey_stringText (.intro chars) rest

/-- A comma has a key behind it. -/
theorem memberStart_comma (blank : Blank before) (behind : List Char) :
    memberStart false (before ++ ',' :: behind) =
      match dropBlank behind with
      | [] => .error (.on .endOfValue [])
      | '}' :: rest => .error (.on .trailingComma ('}' :: rest))
      | next => memberKey next := by
  rw [memberStart, dropBlank_token rfl blank]
  rfl

/-- Every other key is behind a comma and the blanks. -/
theorem memberStart_next {name : String} (beforeBlank : Blank before) (afterBlank : Blank after)
    (spells : StringText name text) (rest : List Char) :
    memberStart false (before ++ ',' :: (after ++ (text ++ rest))) = .ok (some name, rest) := by
  rw [memberStart_comma beforeBlank, dropBlank_stringText afterBlank spells]
  obtain ⟨chars⟩ := spells
  exact memberKey_stringText (.intro chars) rest

/-- The closing bracket is the end. -/
theorem memberStart_end (isFirst : Bool) (blank : Blank gap) (rest : List Char) :
    memberStart isFirst (gap ++ '}' :: rest) = .ok (none, rest) := by
  rw [memberStart, dropBlank_token rfl blank]
  rfl

/-- The value of a member is read back behind its colon. -/
theorem memberValue_run {key : String} {reader : Reader (Except Reason σ)} {next : σ}
    (read : reader.run text = .ok (.ok next, rest)) (blank : Blank before) :
    memberValue key reader (before ++ ':' :: text) = .ok (next, rest) := by
  rw [memberValue, dropBlank_token rfl blank, colon]
  simp only [Reader.within, read]

end

/-! ## Objects -/

/-- The members of an object, with the texts of their values, are taken up one after
the other and lead from a state to another. -/
inductive Gathers (take : σ → String → Member σ) : σ → List (String × List Char) → σ → Prop
  | none (state : σ) : Gathers take state [] state
  | more {state next last : σ} {key : String} {text : List Char}
      {rest : List (String × List Char)} {reader : Reader (Except Reason σ)}
      (takes : take state key = .value reader) (reads : ReadsBack reader text (.ok next))
      (others : Gathers take next rest last) : Gathers take state ((key, text) :: rest) last

/-- A map is gathered from members for its entries if each new key is taken up with its
value. -/
theorem Gathers.of_members {take : OrderedMap α → String → Member (OrderedMap α)}
    {map : OrderedMap α} {members : List ((String × α) × List Char)}
    (whole : members.map (·.1) = map.entries)
    (takes : ∀ sofar, ∀ member ∈ members, member.1.1 ∉ OrderedMap.keys sofar →
      ∃ reader, take sofar member.1.1 = .value reader ∧
        ReadsBack reader member.2 (.ok (sofar.insert member.1.1 member.1.2))) :
    Gathers take ∅ (members.map fun member => (member.1.1, member.2)) map := by
  -- What has been taken up, with what is left, is the whole map.
  have general : ∀ (rest : List ((String × α) × List Char)) (sofar : OrderedMap α),
      sofar.entries ++ rest.map (·.1) = map.entries → (∀ member ∈ rest, member ∈ members) →
      Gathers take sofar (rest.map fun member => (member.1.1, member.2)) map := by
    intro rest
    induction rest with
    | nil =>
        intro sofar whole _
        have equal : sofar = map := OrderedMap.ext (by rw [← whole]; simp)
        rw [equal]
        exact .none map
    | cons member rest ih =>
        intro sofar whole left
        have fresh : member.1.1 ∉ sofar.keys := by
          have distinct := map.keys_nodup
          rw [← whole, List.map_append, List.nodup_append] at distinct
          intro known
          exact distinct.2.2 _ known member.1.1 (by simp) rfl
        obtain ⟨first, others⟩ := List.forall_mem_cons.1 left
        obtain ⟨reader, taken, reads⟩ := takes sofar member first fresh
        apply Gathers.more taken reads
        apply ih _ _ others
        rw [OrderedMap.entries_insert_of_not_mem fresh, ← whole, List.append_assoc]
        rfl
  exact general members ∅ whole fun _ member => member

/-- A map is gathered from its entries if each new key is taken up with its value. -/
theorem Gathers.of_entries {take : OrderedMap α → String → Member (OrderedMap α)}
    {map : OrderedMap α} (write : α → List Char)
    (takes : ∀ sofar key value, key ∉ OrderedMap.keys sofar → (key, value) ∈ map.entries →
      ∃ reader, take sofar key = .value reader ∧
        ReadsBack reader (write value) (.ok (sofar.insert key value))) :
    Gathers take ∅ (map.entries.map fun (key, value) => (key, write value)) map := by
  let members := map.entries.map fun entry => (entry, write entry.2)
  have whole : members.map (·.1) = map.entries := by
    rw [List.map_map]
    exact List.map_id _
  have gathers : Gathers take ∅ (members.map fun member => (member.1.1, member.2)) map := by
    apply Gathers.of_members whole
    intro sofar member written fresh
    obtain ⟨entry, inside, rfl⟩ := List.mem_map.1 written
    exact takes sofar entry.1 entry.2 fresh inside
  rwa [List.map_map] at gathers

section

variable {take : σ → String → Member σ} {state next last : σ} {name : String}
  {text rest whole : List Char} {reader : Reader (Except Reason σ)} {member : MemberText}
  {members : List (String × MemberText)}

/-- One member more. -/
theorem memberStep_run {isFirst : Bool}
    (start : memberStart isFirst whole = .ok (some name, member.beforeColon ++
      ':' :: (member.afterColon ++ (member.value ++ rest))))
    (takes : take state name = .value reader)
    (read : reader.run (member.afterColon ++ (member.value ++ rest)) = .ok (.ok next, rest)) :
    (memberStep take (isFirst, state)).run whole = .ok (.inl (false, next), rest) := by
  rw [memberStep]
  simp only [start, takes, memberValue_run read member.beforeColon_blank, Outcome.map]

theorem memberStep_end {isFirst : Bool}
    (start : memberStart isFirst whole = .ok (none, rest)) :
    (memberStep take (isFirst, state)).run whole = .ok (.inr state, rest) := by
  rw [memberStep]
  simp only [start]

/-- The members behind the first are taken up one after the other. -/
theorem iterate_memberStep (named : ∀ member ∈ members, StringText member.1 member.2.key)
    (gathers : Gathers take state (members.map fun member => (member.1, member.2.value)) last)
    (tail : TailText '}' (members.map (·.2.text)) text) :
    Reader.iterate (memberStep take) (false, state) (text ++ rest) = .ok (last, rest) := by
  induction members generalizing state text with
  | nil =>
      cases tail with
      | close blank =>
          cases gathers
          rw [List.append_assoc, List.singleton_append, Reader.iterate_eq,
            memberStep_end (memberStart_end _ blank rest)]
  | cons member members ih =>
      obtain ⟨key, others⟩ := List.forall_mem_cons.1 named
      cases tail with
      | more beforeBlank afterBlank tail =>
          cases gathers with
          | more takes reads gathers =>
              simp only [MemberText.text, List.append_assoc, List.cons_append]
              have start := memberStart_next beforeBlank afterBlank key
              have read := reads.run _ _ member.2.afterColon_blank (tail.delimited rfl rest)
              rw [Reader.iterate_eq, memberStep_run (start _) takes read]
              exact ih others gathers tail

/-- An object behind its opening bracket is read back. -/
theorem objectBody_bodyText (named : ∀ member ∈ members, StringText member.1 member.2.key)
    (gathers : Gathers take state (members.map fun member => (member.1, member.2.value)) last)
    (body : BodyText '}' (members.map (·.2.text)) text) :
    ReadsInside (objectBody take state) text last := by
  intro rest
  show Reader.iterate (memberStep take) (true, state) _ = _
  cases members with
  | nil =>
      cases body with
      | empty blank =>
          cases gathers
          rw [List.append_assoc, List.singleton_append, Reader.iterate_eq,
            memberStep_end (memberStart_end _ blank rest)]
  | cons member members =>
      obtain ⟨key, others⟩ := List.forall_mem_cons.1 named
      cases body with
      | parts blank tail =>
          cases gathers with
          | more takes reads gathers =>
              simp only [MemberText.text, List.append_assoc, List.cons_append]
              have start := memberStart_first blank key
              have read := reads.run _ _ member.2.afterColon_blank (tail.delimited rfl rest)
              rw [Reader.iterate_eq, memberStep_run (start _) takes read]
              exact iterate_memberStep others gathers tail

end

/-- An object is read as a map of its members if each of their values is read back. -/
theorem mapBody_bodyText {item : Reader α} {members : List ((String × α) × MemberText)}
    {map : OrderedMap α} {text : List Char} (whole : members.map (·.1) = map.entries)
    (keys : ∀ member ∈ members, StringText member.1.1 member.2.key)
    (reads : ∀ member ∈ members, ReadsBack item member.2.value member.1.2)
    (body : BodyText '}' (members.map (·.2.text)) text) :
    ReadsInside (mapBody item) text map := by
  have gathers : Gathers (takeEntry item) ∅
      ((members.map fun member => (member.1, member.2.value)).map
        fun member => (member.1.1, member.2)) map := by
    apply Gathers.of_members
    · rw [List.map_map]
      exact whole
    · intro sofar member written _
      obtain ⟨member, inside, rfl⟩ := List.mem_map.1 written
      exact ⟨_, rfl, (reads member inside).map _⟩
  have named : ∀ member ∈ members.map fun member => (member.1.1, member.2),
      StringText member.1 member.2.key := by
    intro member written
    obtain ⟨member, inside, rfl⟩ := List.mem_map.1 written
    exact keys member inside
  apply objectBody_bodyText named
  · rwa [List.map_map] at gathers ⊢
  · rwa [List.map_map]

/-! ## Written lists and objects -/

/-- A member as it is written. -/
def Spacing.memberText (spacing : Spacing) (key : String) (value : List Char) : MemberText where
  key := quote key
  beforeColon := []
  afterColon := spacing.afterColon
  value := value
  beforeColon_blank := blank_nil
  afterColon_blank := spacing.afterColon_blank

/-- The members of an object that is written are ways to write them. -/
theorem bodyText_members {β : Type} (entries : List β) (key : β → String)
    (value : β → List Char) (spacing : Spacing) (level : Nat) :
    ∃ text, spacing.object level (entries.map fun entry => (key entry, value entry)) = '{' :: text ∧
      BodyText '}' (entries.map fun entry => (spacing.memberText (key entry) (value entry)).text)
        text := by
  refine ⟨_, rfl, ?_⟩
  rw [List.map_map]
  exact bodyText_closed '}' (spacing.gap_blank (level + 1)) (spacing.gap_blank level) _

/-- An object behind its opening bracket is read back from its text with any spacing. -/
theorem objectBody_closed {take : σ → String → Member σ} {state last : σ}
    {members : List (String × List Char)} (spacing : Spacing)
    (gathers : Gathers take state members last) (level : Nat) :
    ReadsInside (objectBody take state)
      (closed '}' (spacing.gap (level + 1)) (spacing.gap level)
        (members.map fun (key, value) => spacing.member key value)) last := by
  let texts := members.map fun member => (member.1, spacing.memberText member.1 member.2)
  have named : ∀ member ∈ texts, StringText member.1 member.2.key := by
    intro member inside
    obtain ⟨entry, -, rfl⟩ := List.mem_map.1 inside
    exact stringText_quote entry.1
  have same : texts.map (fun member => (member.1, member.2.value)) = members := by
    rw [List.map_map]
    exact List.map_id members
  have whole : texts.map (·.2.text) = members.map fun (key, value) => spacing.member key value := by
    rw [List.map_map]
    rfl
  rw [← whole]
  rw [← same] at gathers
  exact objectBody_bodyText named gathers
    (bodyText_closed '}' (spacing.gap_blank (level + 1)) (spacing.gap_blank level) _)

end NodeDecl.Json
