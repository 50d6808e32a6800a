import NodeDecl.Proofs.Json.Forms

/-!
# Forms are exchanged in place

Where a document gives a record as a list, an object with the same first fields may stand
instead, and the other way round, at any depth and at any number of places at once: the
document is read as the same value.  Where it gives a record as a list with more items than
the record has fields, it is not read at all.
-/

namespace NodeDecl.Json

variable {α β σ : Type}

/-! ## Places in a document -/

/-- At a place of a reader one text may stand for another: both are well-formed, and both are
read back as the same values. -/
structure Exchanges (reader : Nat → Reader α) (alike : List Char → List Char → Prop) : Prop where
  wellFormed : ∀ left right, alike left right → WellFormed left ∧ WellFormed right
  reads : ∀ left right, alike left right → ∀ levels value,
    ReadsBack (reader levels) left value ↔ ReadsBack (reader levels) right value

/-- At a place of a reader some well-formed texts are never read back. -/
structure Rejects (reader : Nat → Reader α) (overfull : List Char → Prop) : Prop where
  wellFormed : ∀ text, overfull text → WellFormed text
  reads : ∀ text, overfull text → ∀ levels value, ¬ ReadsBack (reader levels) text value

theorem Reader.Sound.readsBack_map_iff {reader : Reader α} (sound : reader.Sound)
    {change : α → β} {text : List Char} {value : β} :
    ReadsBack (reader.map change) text value ↔
      ∃ inner, ReadsBack reader text inner ∧ change inner = value := by
  constructor
  · exact sound.map_readsBack
  · rintro ⟨inner, reads, rfl⟩
    exact reads.map change

section

variable {reader : Nat → Reader α} (sound : ∀ levels, (reader levels).Sound)

include sound

theorem Exchanges.map {alike : List Char → List Char → Prop} (exchanges : Exchanges reader alike)
    (change : α → β) : Exchanges (fun levels => (reader levels).map change) alike where
  wellFormed := exchanges.wellFormed
  reads left right same levels value := by
    simp only [(sound levels).readsBack_map_iff, exchanges.reads left right same]

theorem Rejects.map {overfull : List Char → Prop} (rejects : Rejects reader overfull)
    (change : α → β) : Rejects (fun levels => (reader levels).map change) overfull where
  wellFormed := rejects.wellFormed
  reads text tooMany levels value reads := by
    rcases (sound levels).map_readsBack reads with ⟨inner, reads, -⟩
    exact rejects.reads text tooMany levels inner reads

end

/-- Two texts that are the same. -/
def SameText (left right : List Char) : Prop :=
  left = right ∧ WellFormed left

theorem exchanges_sameText (reader : Nat → Reader α) : Exchanges reader SameText where
  wellFormed := by
    rintro text _ ⟨rfl, wellFormed⟩
    exact ⟨wellFormed, wellFormed⟩
  reads := by
    rintro text _ ⟨rfl, -⟩ levels value
    rfl

theorem rejects_nothing (reader : Nat → Reader α) : Rejects reader fun _ => False where
  wellFormed := nofun
  reads := nofun

/-- What is skipped may be any well-formed value. -/
theorem exchanges_skip :
    Exchanges (fun _ => skip) fun left right => WellFormed left ∧ WellFormed right where
  wellFormed _ _ both := both
  reads _ _ both _ _ := iff_of_true both.1.readsBack both.2.readsBack

/-! ## Members of objects -/

section

variable {take : σ → String → Member σ} {state last : σ}

theorem gathers_cons_iff {name : String} {text : List Char} {rest : List (String × List Char)} :
    Gathers take state ((name, text) :: rest) last ↔
      ∃ reader, take state name = .value reader ∧
        ∃ next, ReadsBack reader text (.ok next) ∧ Gathers take next rest last := by
  constructor
  · intro gathers
    cases gathers with
    | more takes reads others => exact ⟨_, takes, _, reads, others⟩
  · rintro ⟨reader, takes, next, reads, others⟩
    exact .more takes reads others

/-- Members lead to the same if the texts of their values are read alike. -/
theorem gathers_exchange {parts : List (String × List Char × List Char)}
    (alike : ∀ part ∈ parts, ∀ state reader, take state part.1 = .value reader →
      ∀ next, ReadsBack reader part.2.1 next ↔ ReadsBack reader part.2.2 next) :
    Gathers take state (parts.map fun part => (part.1, part.2.1)) last ↔
      Gathers take state (parts.map fun part => (part.1, part.2.2)) last := by
  induction parts generalizing state with
  | nil => rfl
  | cons part parts ih =>
      rcases List.forall_mem_cons.1 alike with ⟨first, others⟩
      simp only [List.map_cons, gathers_cons_iff]
      refine exists_congr fun reader => and_congr_right fun takes => exists_congr fun next => ?_
      rw [first state reader takes, ih others]

/-- Each member is read back on the way. -/
theorem Gathers.reads {bindings : List (String × List Char)}
    (gathers : Gathers take state bindings last) {name : String} {text : List Char}
    (member : (name, text) ∈ bindings) :
    ∃ state reader next, take state name = .value reader ∧ ReadsBack reader text (.ok next) := by
  induction gathers with
  | none => cases member
  | more takes reads _ ih =>
      rcases List.mem_cons.1 member with same | inside
      · cases same
        exact ⟨_, _, _, takes, reads⟩
      · exact ih inside

end

/-- Two objects with the same names in the same order, and with values that differ as they
may under their names. -/
inductive MembersAlike (alike : String → List Char → List Char → Prop) :
    List Char → List Char → Prop
  | intro {parts : List (String × List Char × List Char)} {left right : List Char}
      (values : ∀ part ∈ parts, alike part.1 part.2.1 part.2.2)
      (leftText : ObjectText (parts.map fun part => (part.1, part.2.1)) left)
      (rightText : ObjectText (parts.map fun part => (part.1, part.2.2)) right) :
      MembersAlike alike left right

section

variable {alike : String → List Char → List Char → Prop}
  {parts : List (String × List Char × List Char)}
  (wellFormed : ∀ name left right, alike name left right → WellFormed left ∧ WellFormed right)
  (values : ∀ part ∈ parts, alike part.1 part.2.1 part.2.2)

include wellFormed values

theorem wellFormed_lefts :
    ∀ binding ∈ parts.map fun part => (part.1, part.2.1), WellFormed binding.2 :=
  List.forall_mem_map.2 fun part member => (wellFormed _ _ _ (values part member)).1

theorem wellFormed_rights :
    ∀ binding ∈ parts.map fun part => (part.1, part.2.2), WellFormed binding.2 :=
  List.forall_mem_map.2 fun part member => (wellFormed _ _ _ (values part member)).2

end

/-- An object with a value that is overfull under its name. -/
inductive MemberOverfull (overfull : String → List Char → Prop) : List Char → Prop
  | intro {bindings : List (String × List Char)} {name : String} {part text : List Char}
      (wellFormed : ∀ binding ∈ bindings, WellFormed binding.2)
      (member : (name, part) ∈ bindings) (tooMany : overfull name part)
      (spells : ObjectText bindings text) : MemberOverfull overfull text

theorem membersAlike_compact {alike : String → List Char → List Char → Prop}
    (parts : List (String × List Char × List Char))
    (values : ∀ part ∈ parts, alike part.1 part.2.1 part.2.2) :
    MembersAlike alike (Spacing.compact.object 0 (parts.map fun part => (part.1, part.2.1)))
      (Spacing.compact.object 0 (parts.map fun part => (part.1, part.2.2))) :=
  .intro values (objectText_closed _ _ _) (objectText_closed _ _ _)

theorem MembersAlike.wellFormed {alike : String → List Char → List Char → Prop}
    {left right : List Char}
    (wellFormed : ∀ name left right, alike name left right → WellFormed left ∧ WellFormed right)
    (same : MembersAlike alike left right) : WellFormed left ∧ WellFormed right := by
  cases same with
  | intro values leftText rightText =>
      exact ⟨leftText.wellFormed (wellFormed_lefts wellFormed values),
        rightText.wellFormed (wellFormed_rights wellFormed values)⟩

theorem MemberOverfull.wellFormed {overfull : String → List Char → Prop} {text : List Char}
    (tooMany : MemberOverfull overfull text) : WellFormed text := by
  cases tooMany with
  | intro wellFormed _ _ spells => exact spells.wellFormed wellFormed

/-! ## Maps -/

/-- Two maps that are the same, or whose values differ as they may. -/
def MapAlike (alike : List Char → List Char → Prop) (left right : List Char) : Prop :=
  SameText left right ∨ MembersAlike (fun _ => alike) left right

/-- A map with a value that is overfull. -/
def MapOverfull (overfull : List Char → Prop) : List Char → Prop :=
  MemberOverfull fun _ => overfull

section

variable {value : Nat → Reader α} {take : Nat → σ → String → Member σ} {start : σ}
  {failure : List Char → Failure} (sound : ∀ levels, (value levels).Sound)
  (takes : ∀ levels state name, ∃ change : α → Except Reason σ,
    take levels state name = .value ((value levels).map change))

include sound takes

/-- All members are taken up by one reader. -/
theorem takesSound_of_map (levels : Nat) : TakesSound (take levels) := by
  intro state name reader taken
  rcases takes levels state name with ⟨change, same⟩
  cases same.symm.trans taken
  exact (sound levels).map change

theorem object_exchanges {alike : List Char → List Char → Prop}
    (exchanges : Exchanges value alike) :
    Exchanges (.nested (· = '{') (fun inner _ => objectBody (take inner) start) (.refuse failure))
      (MapAlike alike) where
  wellFormed left right same := by
    rcases same with same | same
    · exact (exchanges_sameText value).wellFormed left right same
    · exact same.wellFormed fun _ => exchanges.wellFormed
  reads left right same levels map := by
    rcases same with ⟨rfl, -⟩ | ⟨values, leftText, rightText⟩
    · rfl
    · have members := takesSound_of_map sound takes
      have wellFormed := fun _ : String => exchanges.wellFormed
      rw [leftText.readsBack_iff (wellFormed_lefts wellFormed values) members,
        rightText.readsBack_iff (wellFormed_rights wellFormed values) members]
      refine exists_congr fun inner => and_congr_right fun _ => gathers_exchange ?_
      intro part member state reader taken next
      rcases takes inner state part.1 with ⟨change, same⟩
      cases same.symm.trans taken
      exact (exchanges.map sound change).reads _ _ (values part member) inner next

theorem object_rejects {overfull : List Char → Prop} (rejects : Rejects value overfull) :
    Rejects (.nested (· = '{') (fun inner _ => objectBody (take inner) start) (.refuse failure))
      (MapOverfull overfull) where
  wellFormed _ tooMany := MemberOverfull.wellFormed tooMany
  reads text tooMany levels map reads := by
    rcases tooMany with ⟨wellFormed, member, tooMany, spells⟩
    rcases (spells.readsBack_iff wellFormed (takesSound_of_map sound takes)).1 reads with
      ⟨inner, -, gathers⟩
    rcases gathers.reads member with ⟨state, reader, next, taken, reads⟩
    rcases takes inner state _ with ⟨change, same⟩
    cases same.symm.trans taken
    exact (rejects.map sound change).reads _ tooMany inner _ reads

end

/-! ## Records -/

/-- Two texts for a record with some names: the same text, two objects whose values differ as
they may, or its first fields in any of the two forms, with values that differ as they may. -/
inductive RecordAlike (names : List String) (alike : String → List Char → List Char → Prop)
    (left right : List Char) : Prop
  | same (same : SameText left right)
  | members (values : MembersAlike alike left right)
  | forms {parts : List (String × List Char × List Char)} (inOrder : parts.map (·.1) <+: names)
      (values : ∀ part ∈ parts, alike part.1 part.2.1 part.2.2)
      (leftForm : Record.FormText names (parts.map (·.2.1)) left)
      (rightForm : Record.FormText names (parts.map (·.2.2)) right)

/-- A list of first fields stands for an object of them. -/
theorem recordAlike_compact {names : List String} {alike : String → List Char → List Char → Prop}
    (parts : List (String × List Char × List Char)) (inOrder : parts.map (·.1) <+: names)
    (values : ∀ part ∈ parts, alike part.1 part.2.1 part.2.2) :
    RecordAlike names alike (compactList (parts.map (·.2.1)))
      (Spacing.compact.object 0 (parts.map fun part => (part.1, part.2.2))) := by
  have named : (parts.map fun part => (part.1, part.2.2)).map (·.1) = parts.map (·.1) := by
    rw [List.map_map]
    rfl
  have given : (parts.map fun part => (part.1, part.2.2)).map (·.2) = parts.map (·.2.2) := by
    rw [List.map_map]
    rfl
  exact .forms inOrder values (.list (listText_compact _))
    (.object (named.symm ▸ inOrder) given (objectText_closed _ _ _))

/-- A text for a record with some names that is a list with more items than there are names,
or that gives a field, as an item or as a member, by a text that is overfull. -/
inductive RecordOverfull (names : List String) (overfull : String → List Char → Prop)
    (text : List Char) : Prop
  | surplus {items : List (List Char)} (wellFormed : ∀ item ∈ items, WellFormed item)
      (surplus : names.length < items.length) (spells : ListText items text)
  | item {items : List (List Char)} {name : String} {part : List Char}
      (wellFormed : ∀ item ∈ items, WellFormed item) (position : (name, part) ∈ names.zip items)
      (tooMany : overfull name part) (spells : ListText items text)
  | member (tooMany : MemberOverfull overfull text)

namespace Record

variable {record : Record σ} {fields : List (RecordField σ)} {start state last : σ} {levels : Nat}

theorem fills_cons_iff {field : RecordField σ} {text : List Char} {texts : List (List Char)} :
    Fills levels (field :: fields) state (text :: texts) last ↔
      ∃ change, ReadsBack (field.reader levels) text change ∧
        Fills levels fields (change state) texts last := by
  constructor
  · intro fills
    cases fills with
    | more reads others => exact ⟨_, reads, others⟩
  · rintro ⟨change, reads, others⟩
    exact .more reads others

/-- Items fill the same if they are read alike. -/
theorem fills_exchange {alike : String → List Char → List Char → Prop}
    (exchanges : ∀ field ∈ fields, Exchanges field.reader (alike field.name))
    {parts : List (String × List Char × List Char)}
    (inOrder : parts.map (·.1) <+: fields.map (·.name))
    (values : ∀ part ∈ parts, alike part.1 part.2.1 part.2.2) :
    Fills levels fields state (parts.map (·.2.1)) last ↔
      Fills levels fields state (parts.map (·.2.2)) last := by
  induction fields generalizing parts state with
  | nil =>
      cases List.map_eq_nil_iff.1 (List.prefix_nil.1 inOrder)
      rfl
  | cons field fields ih =>
      cases parts with
      | nil => rfl
      | cons part parts =>
          rcases part with ⟨name, left, right⟩
          rcases List.forall_mem_cons.1 exchanges with ⟨first, others⟩
          rcases List.forall_mem_cons.1 values with ⟨firstValue, otherValues⟩
          rcases List.cons_prefix_cons.1 inOrder with ⟨rfl, otherNames⟩
          simp only [List.map_cons, fills_cons_iff]
          refine exists_congr fun change => ?_
          rw [first.reads left right firstValue levels change, ih others otherNames otherValues]

/-- Each item that fills a field is read back by it. -/
theorem Fills.reads {texts : List (List Char)} (fills : Fills levels fields state texts last)
    {name : String} {text : List Char} (position : (name, text) ∈ (fields.map (·.name)).zip texts) :
    ∃ field ∈ fields, field.name = name ∧
      ∃ change, ReadsBack (field.reader levels) text change := by
  induction fills with
  | none fields state => simp at position
  | @more field fields _ _ _ _ _ reads _ ih =>
      rcases List.mem_cons.1 position with same | inside
      · cases same
        exact ⟨field, List.mem_cons_self, rfl, _, reads⟩
      · rcases ih inside with ⟨other, member, named, reads⟩
        exact ⟨other, List.mem_cons_of_mem _ member, named, reads⟩

theorem Fills.length_le {texts : List (List Char)} (fills : Fills levels fields state texts last) :
    texts.length ≤ fields.length := by
  induction fills with
  | none => exact Nat.zero_le _
  | more _ _ ih => exact Nat.succ_le_succ ih

section

variable {names : List String} (declared : record.fields.map (·.name) = names)
  (distinct : names.Nodup)
  (sound : ∀ field ∈ record.fields, ∀ levels, (field.reader levels).Sound)

include declared distinct sound

/-- Wherever a record is read, its forms may be exchanged. -/
theorem exchanges {alike : String → List Char → List Char → Prop}
    (wellFormed : ∀ name left right, alike name left right → WellFormed left ∧ WellFormed right)
    (exchanges : ∀ field ∈ record.fields, Exchanges field.reader (alike field.name)) (start : σ) :
    Exchanges (record.reader start) (RecordAlike names alike) where
  wellFormed left right same := by
    cases same with
    | same same => exact ⟨same.2, same.1 ▸ same.2⟩
    | members values => exact values.wellFormed wellFormed
    | forms _ values leftForm rightForm =>
        have lefts := wellFormed_lefts wellFormed values
        have rights := wellFormed_rights wellFormed values
        rw [List.forall_mem_map] at lefts rights
        exact ⟨leftForm.wellFormed (List.forall_mem_map.2 lefts),
          rightForm.wellFormed (List.forall_mem_map.2 rights)⟩
  reads left right same levels value := by
    cases same with
    | same same => rw [same.1]
    | members values =>
        rcases values with ⟨values, leftText, rightText⟩
        rw [readsBack_object leftText (wellFormed_lefts wellFormed values) sound,
          readsBack_object rightText (wellFormed_rights wellFormed values) sound]
        refine exists_congr fun inner => and_congr_right fun _ => exists_congr fun after => ?_
        apply gathers_exchange
        intro part member state reader taken next
        have alike := values part member
        rcases takeMember_eq_value taken with ⟨-, rfl⟩ | ⟨field, inside, named, rfl⟩
        · exact (exchanges_skip.map (fun _ => skip_sound) _).reads _ _ (wellFormed _ _ _ alike)
            inner next
        · rw [← named] at alike
          exact ((exchanges field inside).map (sound field inside) _).reads _ _ alike inner next
    | forms inOrder values leftForm rightForm =>
        have lefts := wellFormed_lefts wellFormed values
        have rights := wellFormed_rights wellFormed values
        rw [List.forall_mem_map] at lefts rights
        rw [leftForm.readsBack_iff (List.forall_mem_map.2 lefts) sound declared distinct,
          rightForm.readsBack_iff (List.forall_mem_map.2 rights) sound declared distinct]
        subst declared
        refine exists_congr fun inner => and_congr_right fun _ => ?_
        exact fills_exchange exchanges inOrder values

/-- Wherever a record is read, a list with too many items is refused, and so is one that is
given in place of a field. -/
theorem rejects {overfull : String → List Char → Prop}
    (known : ∀ name text, overfull name text → name ∈ names)
    (rejects : ∀ field ∈ record.fields, Rejects field.reader (overfull field.name)) (start : σ) :
    Rejects (record.reader start) (RecordOverfull names overfull) where
  wellFormed text tooMany := by
    cases tooMany with
    | surplus wellFormed _ spells => exact spells.wellFormed wellFormed
    | item wellFormed _ _ spells => exact spells.wellFormed wellFormed
    | member tooMany => exact tooMany.wellFormed
  reads text tooMany levels value reads := by
    subst declared
    cases tooMany with
    | surplus wellFormed surplus spells =>
        rcases (readsBack_list spells wellFormed sound).1 reads with ⟨inner, -, fills⟩
        have few := fills.length_le
        rw [List.length_map] at surplus
        omega
    | item wellFormed position tooMany spells =>
        rcases (readsBack_list spells wellFormed sound).1 reads with ⟨inner, -, fills⟩
        rcases fills.reads position with ⟨field, member, rfl, change, reads⟩
        exact (rejects field member).reads _ tooMany inner change reads
    | member tooMany =>
        rcases tooMany with ⟨wellFormed, member, tooMany, spells⟩
        rcases (readsBack_object spells wellFormed sound).1 reads with ⟨inner, -, after, gathers⟩
        rcases gathers.reads member with ⟨state, reader, next, taken, reads⟩
        rcases takeMember_eq_value taken with ⟨unknown, -⟩ | ⟨field, inside, named, rfl⟩
        · exact unknown (known _ _ tooMany)
        · rw [← named] at tooMany
          exact ((rejects field inside).map (sound field inside) _).reads _ tooMany inner _ reads

end

end Record

end NodeDecl.Json
