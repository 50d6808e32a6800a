import NodeDecl.Proofs.Json.Parts
import NodeDecl.Proofs.Json.Records

/-!
# The two forms of a record

A record may be given as a list of its first fields, in the order of their declaration, or as
an object that has these fields as members.  Both are read as the record whose first fields
are given by the items, one by one, while the other fields stay as they are at the start.
-/

namespace NodeDecl.Json

variable {α σ : Type}

/-! ## Records in either form -/

namespace Record

variable {record : Record σ} {fields : List (RecordField σ)} {start state last value : σ}
  {levels : Nat} {items : List (List Char)} {bindings : List (String × List Char)}
  {text : List Char}

/-- The items of a list are accepted as a record exactly if they fill its first fields. -/
theorem listReader_iff (sound : ∀ field ∈ fields, (field.reader levels).Sound)
    (wellFormed : ∀ item ∈ items, WellFormed item) (body : BodyText ']' items text) :
    (listReader fields start levels).run text = .ok (last, []) ↔
      Fills levels fields start items last := by
  constructor
  · intro accepted
    rcases takeItems_takes sound accepted with ⟨items', text', fills, wellFormed', body', same⟩
    have whole : PartsText true ']' (items.map id) text := (List.map_id items).symm ▸ body
    have whole' : PartsText true ']' (items'.map id) text' := (List.map_id items').symm ▸ body'
    have parts := PartsText.unique .list id id (fun _ isValue => isValue.passes.opens)
      (fun _ _ _ _ isValue isValue' => isValue.unique isValue') wellFormed wellFormed' whole whole'
      ((List.append_nil text).trans same)
    rw [List.map_id, List.map_id] at parts
    rwa [parts.1]
  · intro fills
    have run := fills.takeItems (show PartsText (0 = 0) ']' items text from body) []
    rwa [List.append_nil] at run

/-- A list is read back as a record exactly if its items fill the first fields. -/
theorem readsBack_list (spells : ListText items text)
    (wellFormed : ∀ item ∈ items, WellFormed item)
    (sound : ∀ field ∈ record.fields, ∀ levels, (field.reader levels).Sound) :
    ReadsBack (record.reader start levels) text value ↔
      ∃ inner, levels = inner + 1 ∧ Fills inner record.fields start items value := by
  cases spells with
  | intro body =>
      have fields := fun inner field member => sound field member inner
      rw [reader, readsBack_nested_iff rfl rfl fun inner =>
        listReader_soundInside (fields inner) start]
      simp only [if_pos, listReader_iff (fields _) wellFormed body]

/-- An object is read back as a record exactly if its members lead to the record. -/
theorem readsBack_object (spells : ObjectText bindings text)
    (wellFormed : ∀ binding ∈ bindings, WellFormed binding.2)
    (sound : ∀ field ∈ record.fields, ∀ levels, (field.reader levels).Sound) :
    ReadsBack (record.reader start levels) text value ↔
      ∃ inner, levels = inner + 1 ∧ ∃ names,
        Gathers (takeMember record.fields inner) ([], start) bindings (names, value) := by
  rcases spells.exists_members wellFormed with ⟨members, inside, rfl, rfl, each, body⟩
  have takes := fun inner => takeMember_sound fun field member => sound field member inner
  rw [reader, readsBack_nested_iff rfl rfl fun inner =>
    (objectBody_soundInside (takes inner) ([], start)).map _]
  refine exists_congr fun inner => and_congr_right fun _ => ?_
  constructor
  · intro run
    rcases Reader.map_eq_ok run with ⟨⟨names, last⟩, accepted, rfl⟩
    exact ⟨names, (objectBody_iff (takes inner) each body).1 accepted⟩
  · rintro ⟨names, gathers⟩
    have run := (objectBody_iff (takes inner) each body).2 gathers
    show ((objectBody _ _).map _).run inside = _
    rw [Reader.run_map, run]
    rfl

/-- The ways to give the first fields of a record by the texts of their values: as a list, or
as an object with the names of these fields in the order of their declaration. -/
inductive FormText (names : List String) (items : List (List Char)) : List Char → Prop
  | list {text : List Char} (spells : ListText items text) : FormText names items text
  | object {bindings : List (String × List Char)} {text : List Char}
      (inOrder : bindings.map (·.1) <+: names) (values : bindings.map (·.2) = items)
      (spells : ObjectText bindings text) : FormText names items text

theorem FormText.wellFormed {names : List String} (form : FormText names items text)
    (wellFormed : ∀ item ∈ items, WellFormed item) : WellFormed text := by
  cases form with
  | list spells => exact spells.wellFormed wellFormed
  | object inOrder values spells =>
      subst values
      exact spells.wellFormed (List.forall_mem_map.1 wellFormed)

/-- A field is found by its name if no other has the name. -/
theorem find?_of_nodup {field : RecordField σ} (distinct : (fields.map (·.name)).Nodup)
    (member : field ∈ fields) : fields.find? (·.name = field.name) = some field := by
  induction fields with
  | nil => cases member
  | cons first fields ih =>
      rcases List.nodup_cons.1 distinct with ⟨once, distinct⟩
      rcases List.mem_cons.1 member with rfl | member
      · exact List.find?_cons_of_pos (decide_eq_true rfl)
      · have other : first.name ≠ field.name := fun same =>
          once (List.mem_map.2 ⟨field, member, same.symm⟩)
        rw [List.find?_cons_of_neg (by simpa using other), ih distinct member]

/-- Members with the names of the first fields, in the order of their declaration, lead to
the record whose first fields their values fill. -/
theorem gathers_iff_fills {all : List (RecordField σ)} {names : List String}
    (sound : ∀ field ∈ fields, (field.reader levels).Sound)
    (found : ∀ field ∈ fields, all.find? (·.name = field.name) = some field)
    (distinct : (fields.map (·.name)).Nodup) (fresh : ∀ field ∈ fields, field.name ∉ names)
    (inOrder : bindings.map (·.1) <+: fields.map (·.name)) :
    (∃ after, Gathers (takeMember all levels) (names, state) bindings (after, last)) ↔
      Fills levels fields state (bindings.map (·.2)) last := by
  -- The fields that are left go along with the bindings that are left; `names` have been given.
  induction fields generalizing bindings names state with
  | nil =>
      cases List.map_eq_nil_iff.1 (List.prefix_nil.1 inOrder)
      constructor
      · rintro ⟨after, gathers⟩
        cases gathers
        exact .none _ _
      · intro fills
        cases fills
        exact ⟨names, .none _⟩
  | cons field fields ih =>
      rcases List.forall_mem_cons.1 sound with ⟨firstSound, othersSound⟩
      rcases List.forall_mem_cons.1 found with ⟨firstFound, othersFound⟩
      rcases List.forall_mem_cons.1 fresh with ⟨firstFresh, othersFresh⟩
      rcases List.nodup_cons.1 distinct with ⟨once, othersDistinct⟩
      have othersNew : ∀ other ∈ fields, other.name ∉ field.name :: names := by
        intro other member taken
        rcases List.mem_cons.1 taken with same | earlier
        · exact once (List.mem_map.2 ⟨other, member, same⟩)
        · exact othersFresh other member earlier
      cases bindings with
      | nil =>
          constructor
          · rintro ⟨after, gathers⟩
            cases gathers
            exact .none _ _
          · intro fills
            cases fills
            exact ⟨names, .none _⟩
      | cons binding bindings =>
          rcases binding with ⟨name, text⟩
          rcases List.cons_prefix_cons.1 inOrder with ⟨rfl, others⟩
          constructor
          · rintro ⟨after, gathers⟩
            cases gathers with
            | more takes reads gathers =>
                rw [takeMember_known firstFound firstFresh] at takes
                cases takes
                rcases firstSound.map_readsBack reads with ⟨change, readsChange, equal⟩
                cases equal
                exact .more readsChange
                  ((ih othersSound othersFound othersDistinct othersNew others).1 ⟨after, gathers⟩)
          · intro fills
            cases fills with
            | more reads fills =>
                rcases (ih othersSound othersFound othersDistinct othersNew others).2 fills with
                  ⟨after, gathers⟩
                exact ⟨after, gathers.field firstFound firstFresh reads⟩

/-- Both forms of a record are read back exactly if the items fill its first fields. -/
theorem FormText.readsBack_iff {names : List String} (form : FormText names items text)
    (wellFormed : ∀ item ∈ items, WellFormed item)
    (sound : ∀ field ∈ record.fields, ∀ levels, (field.reader levels).Sound)
    (declared : record.fields.map (·.name) = names) (distinct : names.Nodup) :
    ReadsBack (record.reader start levels) text value ↔
      ∃ inner, levels = inner + 1 ∧ Fills inner record.fields start items value := by
  cases form with
  | list spells => exact readsBack_list spells wellFormed sound
  | object inOrder values spells =>
      subst values declared
      have found : ∀ field ∈ record.fields,
          record.fields.find? (·.name = field.name) = some field :=
        fun _ member => find?_of_nodup distinct member
      rw [readsBack_object spells (List.forall_mem_map.1 wellFormed) sound]
      refine exists_congr fun inner => and_congr_right fun _ => ?_
      exact gathers_iff_fills (fun field member => sound field member inner) found distinct
        (by simp) inOrder

end Record

/-! ## Positions -/

section

variable {fields : List (RecordField σ)} {field : RecordField σ} {reader : Reader α}
  {set : α → σ → σ} {state last : σ} {levels position : Nat} {items : List (List Char)}

/-- What a reader makes of a text that may be missing. -/
def Given (reader : Reader α) (text? : Option (List Char)) (default value : α) : Prop :=
  match text? with
  | none => value = default
  | some text => ReadsBack reader text value

/-- The next field of a record takes what is given at its position. -/
theorem Record.Fills.next (fills : Fills levels (field :: fields) state (items.drop position) last)
    (default : α) (sound : reader.Sound) (sets : field.reader levels = reader.map set)
    (keeps : set default state = state) :
    ∃ value, Given reader items[position]? default value ∧
      Fills levels fields (set value state) (items.drop (position + 1)) last := by
  -- What is given at a position is the first of the items from there on.
  rw [← List.head?_drop, ← List.tail_drop]
  generalize items.drop position = left at fills ⊢
  cases fills with
  | none =>
      refine ⟨default, rfl, ?_⟩
      rw [keeps]
      exact .none _ _
  | more reads others =>
      rw [sets] at reads
      rcases sound.map_readsBack reads with ⟨value, readsValue, rfl⟩
      exact ⟨value, readsValue, others⟩

/-- A field in front takes what is given at its position. -/
theorem Given.fills {default value : α} (given : Given reader items[position]? default value)
    (sets : field.reader levels = reader.map set) (keeps : set default state = state)
    (others : Record.Fills levels fields (set value state) (items.drop (position + 1)) last) :
    Record.Fills levels (field :: fields) state (items.drop position) last := by
  rw [← List.head?_drop] at given
  rw [← List.tail_drop] at others
  generalize items.drop position = left at given others ⊢
  cases left with
  | nil =>
      cases given
      rw [keeps] at others
      cases others
      exact .none _ _
  | cons text left => exact .more (sets ▸ ReadsBack.map given set) others

/-- Nothing is given behind the last field. -/
theorem Record.fills_drop_nil :
    Fills levels [] state (items.drop position) last ↔ items.length ≤ position ∧ last = state := by
  rw [← List.drop_eq_nil_iff]
  generalize items.drop position = left
  constructor
  · intro fills
    cases fills
    exact ⟨rfl, rfl⟩
  · rintro ⟨rfl, rfl⟩
    exact .none _ _

end

end NodeDecl.Json
