import NodeDecl.Proofs.Json.RecordFronts

/-!
# Texts come apart in one way

The text of a list or of an object is made of its items or members in one way only.  So an
object is read back as a value exactly if its members lead to the value, whatever blanks
stand between them and however their keys are written.
-/

namespace NodeDecl.Json

variable {α β γ σ : Type}

/-! ## Parts with commas between them -/

namespace StartText

variable {isFirst : Bool} {start start' gap part part' rest rest' : List Char} {frame : Skip.Frame}

/-- What stands behind two starts is the same if all is. -/
theorem strip (begins : StartText isFirst start) (begins' : StartText isFirst start')
    (opens : Opens part) (opens' : Opens part')
    (same : start ++ (part ++ rest) = start' ++ (part' ++ rest')) :
    part ++ rest = part' ++ rest' := by
  cases begins with
  | first blank =>
      cases begins' with
      | first blank' =>
          have fronts := congrArg dropBlank same
          rwa [opens.dropBlank blank, opens'.dropBlank blank'] at fronts
  | next beforeBlank afterBlank =>
      cases begins' with
      | next beforeBlank' afterBlank' =>
          simp only [List.append_assoc, List.cons_append] at same
          have commas := congrArg dropBlank same
          rw [dropBlank_token rfl beforeBlank, dropBlank_token rfl beforeBlank'] at commas
          have fronts := congrArg dropBlank (List.cons.inj commas).2
          rwa [opens.dropBlank afterBlank, opens'.dropBlank afterBlank'] at fronts

/-- Where a part comes there is no closing bracket. -/
theorem ne_closing (begins : StartText isFirst start) (opens : Opens part) (blank : Blank gap) :
    start ++ (part ++ rest) ≠ gap ++ [frame.closing] ++ rest' := by
  intro same
  have fronts := congrArg dropBlank same
  rw [Skip.dropBlank_closing blank] at fronts
  cases begins with
  | first startBlank =>
      rw [opens.dropBlank startBlank] at fronts
      rcases opens with ⟨c, behind, rfl, token⟩
      have equal : c = frame.closing := (List.cons.inj fronts).1
      rw [equal, Skip.isDelimiter_closing] at token
      cases token
  | next beforeBlank _ =>
      rw [List.append_assoc, List.cons_append, dropBlank_token rfl beforeBlank] at fronts
      have equal : ',' = frame.closing := (List.cons.inj fronts).1
      cases frame with
      | list => cases equal
      | object => cases equal

end StartText

/-- Parts with commas between them come apart in one way, if each of them ends in one way in
front of a delimiter. -/
theorem PartsText.unique (frame : Skip.Frame) (write : β → List Char) (read : β → γ)
    {IsPart : β → Prop} (opens : ∀ part, IsPart part → Opens (write part))
    (alone : ∀ part part' rest rest', IsPart part → IsPart part' → Delimited rest →
      Delimited rest' → write part ++ rest = write part' ++ rest' →
      read part = read part' ∧ rest = rest')
    {isFirst : Bool} {parts parts' : List β} {text text' rest rest' : List Char}
    (each : ∀ part ∈ parts, IsPart part) (each' : ∀ part ∈ parts', IsPart part)
    (body : PartsText isFirst frame.closing (parts.map write) text)
    (body' : PartsText isFirst frame.closing (parts'.map write) text')
    (same : text ++ rest = text' ++ rest') : parts.map read = parts'.map read ∧ rest = rest' := by
  -- Behind a part the same holds again for what is left of both texts.
  induction parts generalizing isFirst parts' text text' with
  | nil =>
      rcases body.eq_close with ⟨gap, blank, rfl⟩
      cases parts' with
      | nil =>
          rcases body'.eq_close with ⟨gap', blank', rfl⟩
          have fronts := congrArg dropBlank same
          rw [Skip.dropBlank_closing blank, Skip.dropBlank_closing blank'] at fronts
          exact ⟨rfl, (List.cons.inj fronts).2⟩
      | cons part' parts' =>
          rcases body'.eq_more with ⟨start, tail, begins, -, rfl⟩
          simp only [List.append_assoc start, List.append_assoc (write part')] at same
          exact absurd same.symm
            (begins.ne_closing (opens part' (each' _ List.mem_cons_self)) blank)
  | cons part parts ih =>
      rcases body.eq_more with ⟨start, tail, begins, tailText, rfl⟩
      rcases List.forall_mem_cons.1 each with ⟨isPart, others⟩
      simp only [List.append_assoc start, List.append_assoc (write part)] at same
      cases parts' with
      | nil =>
          rcases body'.eq_close with ⟨gap, blank, rfl⟩
          exact absurd same (begins.ne_closing (opens part isPart) blank)
      | cons part' parts' =>
          rcases body'.eq_more with ⟨start', tail', begins', tailText', rfl⟩
          rcases List.forall_mem_cons.1 each' with ⟨isPart', others'⟩
          simp only [List.append_assoc start', List.append_assoc (write part')] at same
          have closes := Skip.isDelimiter_closing frame
          rcases alone part part' _ _ isPart isPart' (tailText.delimited closes rest)
            (tailText'.delimited closes rest')
            (begins.strip begins' (opens part isPart) (opens part' isPart') same) with
            ⟨equal, behind⟩
          rcases ih others others' tailText tailText' behind with ⟨equals, left⟩
          exact ⟨by rw [List.map_cons, List.map_cons, equal, equals], left⟩

/-- The keys of an object are read in one way. -/
theorem StringText.unique {name name' : String} {text text' rest rest' : List Char}
    (spells : StringText name text) (spells' : StringText name' text')
    (same : text ++ rest = text' ++ rest') : name = name' ∧ rest = rest' := by
  have key := memberKey_stringText spells rest
  rw [same, memberKey_stringText spells'] at key
  cases key
  exact ⟨rfl, rfl⟩

/-- A member that is written well, with its name. -/
structure IsMember (member : String × MemberText) : Prop where
  named : StringText member.1 member.2.key
  wellFormed : WellFormed member.2.value

theorem IsMember.opens {member : String × MemberText} (isMember : IsMember member) :
    Opens member.2.text := by
  rcases isMember.named.loose with ⟨inside, quoted, -⟩
  rw [MemberText.text, quoted]
  exact opens_cons rfl _

/-- A member comes apart in one way. -/
theorem IsMember.unique {member member' : String × MemberText} {rest rest' : List Char}
    (isMember : IsMember member) (isMember' : IsMember member') (delimited : Delimited rest)
    (delimited' : Delimited rest') (same : member.2.text ++ rest = member'.2.text ++ rest') :
    (member.1, member.2.value) = (member'.1, member'.2.value) ∧ rest = rest' := by
  simp only [MemberText.text, List.append_assoc, List.cons_append] at same
  rcases isMember.named.unique isMember'.named same with ⟨names, behindKeys⟩
  have colons := congrArg dropBlank behindKeys
  rw [dropBlank_token rfl member.2.beforeColon_blank,
    dropBlank_token rfl member'.2.beforeColon_blank] at colons
  have values := congrArg dropBlank (List.cons.inj colons).2
  rw [isMember.wellFormed.passes.opens.dropBlank member.2.afterColon_blank,
    isMember'.wellFormed.passes.opens.dropBlank member'.2.afterColon_blank] at values
  rcases isMember.wellFormed.unique isMember'.wellFormed delimited delimited' values with
    ⟨equal, left⟩
  exact ⟨by rw [names, equal], left⟩

/-! ## Lists and objects by their parts -/

/-- The ways to write a list, by the texts of its items. -/
inductive ListText (items : List (List Char)) : List Char → Prop
  | intro {text : List Char} (body : BodyText ']' items text) : ListText items ('[' :: text)

/-- The ways to write an object, by the names of its members and the texts of their values. -/
inductive ObjectText (bindings : List (String × List Char)) : List Char → Prop
  | intro {members : List (String × MemberText)} {text : List Char}
      (binds : members.map (fun member => (member.1, member.2.value)) = bindings)
      (named : ∀ member ∈ members, StringText member.1 member.2.key)
      (body : BodyText '}' (members.map (·.2.text)) text) : ObjectText bindings ('{' :: text)

theorem ListText.wellFormed {items : List (List Char)} {text : List Char}
    (spells : ListText items text) (wellFormed : ∀ item ∈ items, WellFormed item) :
    WellFormed text := by
  cases spells with
  | intro body => exact .array wellFormed body

/-- An object of well-formed values is made of members that are written well. -/
theorem ObjectText.exists_members {bindings : List (String × List Char)} {text : List Char}
    (spells : ObjectText bindings text) (wellFormed : ∀ binding ∈ bindings, WellFormed binding.2) :
    ∃ (members : List (String × MemberText)) (inside : List Char), text = '{' :: inside ∧
      bindings = members.map (fun member => (member.1, member.2.value)) ∧
      (∀ member ∈ members, IsMember member) ∧ BodyText '}' (members.map (·.2.text)) inside := by
  cases spells with
  | @intro members inside binds named body =>
      subst binds
      refine ⟨members, inside, rfl, rfl, fun member isMember => ?_, body⟩
      exact ⟨named member isMember, wellFormed _ (List.mem_map.2 ⟨member, isMember, rfl⟩)⟩

theorem ObjectText.wellFormed {bindings : List (String × List Char)} {text : List Char}
    (spells : ObjectText bindings text) (wellFormed : ∀ binding ∈ bindings, WellFormed binding.2) :
    WellFormed text := by
  rcases spells.exists_members wellFormed with ⟨members, inside, rfl, -, each, body⟩
  exact wellFormed_object (fun member isMember => (each member isMember).named)
    (fun member isMember => (each member isMember).wellFormed) body

/-- A list without any blank. -/
def compactList (items : List (List Char)) : List Char :=
  '[' :: closed ']' [] [] items

theorem listText_compact (items : List (List Char)) : ListText items (compactList items) :=
  .intro (bodyText_closed ']' blank_nil blank_nil items)

/-- An object with any spacing is one of the ways to write it. -/
theorem objectText_closed (spacing : Spacing) (level : Nat) (bindings : List (String × List Char)) :
    ObjectText bindings (spacing.object level bindings) := by
  rcases bodyText_members bindings (·.1) (·.2) spacing level with ⟨text, whole, body⟩
  have same : bindings.map (fun binding => (binding.1, binding.2)) = bindings := List.map_id _
  rw [same] at whole
  rw [whole]
  let members := bindings.map fun binding =>
    (binding.1, spacing.memberText binding.1 binding.2)
  have binds : members.map (fun member => (member.1, member.2.value)) = bindings := by
    rw [List.map_map]
    exact List.map_id _
  refine .intro binds ?_ ?_
  · intro member written
    rcases List.mem_map.1 written with ⟨binding, -, rfl⟩
    exact stringText_quote binding.1
  · rwa [List.map_map]

/-- A value with brackets is read back exactly if it is accepted behind the opening one. -/
theorem readsBack_nested_iff {opens : Char → Bool} {body : Nat → Char → Reader α}
    {other : Reader α} {levels : Nat} {opening : Char} {text : List Char} {value : α}
    (bracket : opens opening = true) (token : isDelimiter opening = false)
    (sound : ∀ inner, (body inner opening).SoundInside opening) :
    ReadsBack (.nested opens body other levels) (opening :: text) value ↔
      ∃ inner, levels = inner + 1 ∧ (body inner opening).run text = .ok (value, []) := by
  constructor
  · intro reads
    have run := reads.run_append delimited_nil
    rw [List.append_nil] at run
    cases levels with
    | zero =>
        rw [Reader.nested, Reader.dispatch] at run
        simp only [dropBlank_cons (isBlank_of_opens token), if_pos bracket] at run
        cases run
    | succ inner =>
        have enter : (Reader.dispatch opens (some (body inner)) other).run (opening :: text) =
            (body inner opening).run text := dispatch_run bracket token blank_nil text
        exact ⟨inner, rfl, enter ▸ run⟩
  · rintro ⟨inner, rfl, run⟩
    rcases sound inner text value [] run with ⟨front, -, inside, same⟩
    rw [List.append_nil] at same
    subst same
    exact readsBack_dispatch bracket token inside

section

variable {take : σ → String → Member σ} {start last : σ} {bindings : List (String × List Char)}
  {text : List Char}

/-- The members of an object are accepted as a value exactly if they lead to it. -/
theorem objectBody_iff {members : List (String × MemberText)} (sound : TakesSound take)
    (each : ∀ member ∈ members, IsMember member)
    (body : BodyText '}' (members.map (·.2.text)) text) :
    (objectBody take start).run text = .ok (last, []) ↔
      Gathers take start (members.map fun member => (member.1, member.2.value)) last := by
  constructor
  · intro accepted
    rcases iterate_memberStep_takes sound accepted with
      ⟨members', text', named, wellFormed, gathers, body', same⟩
    have each' : ∀ member ∈ members', IsMember member := fun member inside =>
      ⟨named member inside, wellFormed member inside⟩
    have whole : PartsText true '}' (members.map (·.2.text)) text := body
    have parts := PartsText.unique .object (·.2.text) (fun member => (member.1, member.2.value))
      (fun _ isMember => isMember.opens) (fun _ _ _ _ isMember => isMember.unique) each each'
      whole body' ((List.append_nil text).trans same)
    rwa [parts.1]
  · intro gathers
    have named := fun member inside => (each member inside).named
    have run := objectBody_bodyText named gathers body []
    rwa [List.append_nil] at run

/-- A map is read back exactly if its members lead to it. -/
theorem ObjectText.readsBack_iff {take : Nat → σ → String → Member σ}
    {failure : List Char → Failure} {levels : Nat} (spells : ObjectText bindings text)
    (wellFormed : ∀ binding ∈ bindings, WellFormed binding.2)
    (sound : ∀ levels, TakesSound (take levels)) :
    ReadsBack (.nested (· = '{') (fun inner _ => objectBody (take inner) start) (.refuse failure)
        levels) text last ↔
      ∃ inner, levels = inner + 1 ∧ Gathers (take inner) start bindings last := by
  rcases spells.exists_members wellFormed with ⟨members, inside, rfl, rfl, each, body⟩
  rw [readsBack_nested_iff rfl rfl fun inner => objectBody_soundInside (sound inner) start]
  simp only [objectBody_iff (sound _) each body]

end

end NodeDecl.Json
