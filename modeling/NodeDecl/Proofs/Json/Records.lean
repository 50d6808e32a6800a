import Mathlib.Data.Finset.Dedup
import Mathlib.Data.Finset.Insert
import NodeDecl.Json.Record
import NodeDecl.Proofs.Json.Skipping

/-!
# Maps and records are read back

The members of an object may stand in any order, with any blanks around them and with
their keys written in any way.  A map is read back from members for its bindings; a record
is read back from members for some of its fields, each once, with any well-formed members
of other names between them.
-/

namespace NodeDecl.Json

variable {α σ : Type} {levels : Nat}

/-! ## Lists of strings -/

/-- The ways to write a list of strings. -/
inductive StringsText : List String → List Char → Prop
  | intro {strings : List String} {items : List (List Char)} {text : List Char}
      (spelled : List.Forall₂ StringText strings items) (body : BodyText ']' items text) :
      StringsText strings ('[' :: text)

theorem StringsText.readStrings {strings : List String} {text : List Char}
    (spells : StringsText strings text) :
    ReadsBack (Json.readStrings (levels + 1)) text strings := by
  obtain ⟨spelled, body⟩ := spells
  apply readsBack_dispatch rfl rfl
  apply listBody_bodyText _ body
  apply List.Forall₂.flip
  apply spelled.imp
  intro string item spells
  exact spells.readString

/-- Writing chooses one of the ways to write a list of strings. -/
theorem stringsText_written (strings : List String) (spacing : Spacing) (level : Nat) :
    StringsText strings ((Value.strings strings).written spacing level) := by
  rw [Value.strings, Value.written_array, List.map_map]
  have spelled : List.Forall₂ StringText strings
      (strings.map (Value.written spacing (level + 1) ∘ Value.string)) := by
    rw [List.forall₂_map_right_iff, List.forall₂_same]
    intro string _
    exact stringText_quote string
  exact .intro spelled
    (bodyText_closed ']' (spacing.gap_blank (level + 1)) (spacing.gap_blank level) _)

/-! ## Maps -/

/-- The ways to write a map: an object with one member for each binding. -/
inductive MapText (ValueText : α → List Char → Prop) (entries : List (String × α)) :
    List Char → Prop
  | intro {members : List ((String × α) × MemberText)} {text : List Char}
      (order : (members.map (·.1)).Perm entries)
      (keys : ∀ member ∈ members, StringText member.1.1 member.2.key)
      (values : ∀ member ∈ members, ValueText member.1.2 member.2.value)
      (body : BodyText '}' (members.map (·.2.text)) text) : MapText ValueText entries ('{' :: text)

/-- A map is read back with its bindings in some order. -/
theorem MapText.readMap {ValueText : α → List Char → Prop} {entries : List (String × α)}
    {text : List Char} (spells : MapText ValueText entries text)
    (distinct : (entries.map (·.1)).Nodup) {value : Nat → Reader α}
    (reads : ∀ item text, ValueText item text → ReadsBack (value levels) text item) :
    ∃ map : OrderedMap α, map.entries.Perm entries ∧
      ReadsBack (Json.readMap value (levels + 1)) text map := by
  obtain ⟨order, keys, values, body⟩ := spells
  rename_i members text
  let map : OrderedMap α :=
    { entries := members.map (·.1)
      keys_nodup := (order.map _).nodup_iff.2 distinct }
  refine ⟨map, order, readsBack_dispatch rfl rfl (mapBody_bodyText rfl keys ?_ body)⟩
  intro member inside
  exact reads _ _ (values member inside)

/-- A map that is kept in the order of its names is read back. -/
theorem MapText.readSorted {ValueText : α → List Char → Prop} {map : SortedMap α}
    {text : List Char} (spells : MapText ValueText map.entries text) {value : Nat → Reader α}
    (reads : ∀ item text, ValueText item text → ReadsBack (value levels) text item) :
    ReadsBack ((Json.readMap value (levels + 1)).map fun read => SortedMap.ofList read.entries)
      text map := by
  obtain ⟨read, order, readsBack⟩ := spells.readMap map.keys_nodup reads
  have sorted := readsBack.map fun read => SortedMap.ofList read.entries
  rwa [SortedMap.ofList_of_perm order] at sorted

/-- The text of an object whose values stand for other things. -/
theorem written_object_map (entries : List (String × α)) (toJson : α → Value)
    (spacing : Spacing) (level : Nat) :
    (Value.object (entries.map fun (name, value) => (name, toJson value))).written spacing level =
      spacing.object level
        (entries.map fun (name, value) => (name, (toJson value).written spacing (level + 1))) := by
  rw [Value.written_object, List.map_map]
  rfl

/-- Writing chooses one of the ways to write a map. -/
theorem mapText_written {ValueText : α → List Char → Prop} {entries : List (String × α)}
    (toJson : α → Value) {spacing : Spacing} {level : Nat}
    (values : ∀ entry ∈ entries,
      ValueText entry.2 ((toJson entry.2).written spacing (level + 1))) :
    MapText ValueText entries
      ((Value.object (entries.map fun (name, value) => (name, toJson value))).written
        spacing level) := by
  obtain ⟨text, whole, body⟩ := bodyText_members entries (·.1)
    (fun entry => (toJson entry.2).written spacing (level + 1)) spacing level
  rw [written_object_map, whole]
  let members := entries.map fun entry =>
    (entry, spacing.memberText entry.1 ((toJson entry.2).written spacing (level + 1)))
  have order : (members.map (·.1)).Perm entries := by
    rw [List.map_map]
    exact .of_eq (List.map_id entries)
  apply MapText.intro order
  · intro member written
    obtain ⟨entry, -, rfl⟩ := List.mem_map.1 written
    exact stringText_quote entry.1
  · intro member written
    obtain ⟨entry, inside, rfl⟩ := List.mem_map.1 written
    exact values entry inside
  · rwa [List.map_map]

/-! ## Records -/

/-- The ways to write some fields of a record: an object with one member for each of them,
in any order, and with members of other names. -/
inductive RecordText (names : List String) (keys : Finset String)
    (ValueText : String → List Char → Prop) : List Char → Prop
  | intro {members : List (String × MemberText)} {text : List Char}
      (named : ∀ member ∈ members, StringText member.1 member.2.key)
      (given : ∀ name, name ∈ keys ↔ name ∈ names ∧ name ∈ members.map (·.1))
      (once : ((members.map (·.1)).filter (· ∈ names)).Nodup)
      (known : ∀ member ∈ members, member.1 ∈ names → ValueText member.1 member.2.value)
      (unknown : ∀ member ∈ members, member.1 ∉ names → WellFormed member.2.value)
      (body : BodyText '}' (members.map (·.2.text)) text) :
      RecordText names keys ValueText ('{' :: text)

variable {fields : List (RecordField σ)} {names : List String} {state : σ} {key : String}
  {text : List Char} {rest : List (String × List Char)} {last : List String × σ}

/-- A known member of a record is taken up if it was not before. -/
theorem Gathers.field {field : RecordField σ} {change : σ → σ}
    (known : fields.find? (·.name = key) = some field) (fresh : key ∉ names)
    (reads : ReadsBack (field.reader levels) text change)
    (others : Gathers (Record.takeMember fields levels) (key :: names, change state) rest last) :
    Gathers (Record.takeMember fields levels) (names, state) ((key, text) :: rest) last := by
  have taken := reads.map fun change =>
    (Except.ok (key :: names, change state) : Except Reason (List String × σ))
  exact .more (Record.takeMember_known known fresh) taken others

/-- A member of another name is passed over. -/
theorem Gathers.other (unknown : fields.find? (·.name = key) = .none)
    (wellFormed : WellFormed text)
    (others : Gathers (Record.takeMember fields levels) (names, state) rest last) :
    Gathers (Record.takeMember fields levels) (names, state) ((key, text) :: rest) last := by
  have taken := wellFormed.readsBack.map fun () =>
    (Except.ok (names, state) : Except Reason (List String × σ))
  exact .more (Record.takeMember_unknown unknown) taken others

/-- The names of fields among some names. -/
def fieldNames (fields : List (RecordField σ)) (names : List String) : List String :=
  names.filter (· ∈ fields.map (·.name))

/-- Members for some fields lead from a record to one that has these fields, too. -/
theorem gathers_members {members : List (String × MemberText)}
    {ValueText : String → List Char → Prop} (having : Finset String → σ)
    (changes : ∀ field ∈ fields, ∀ text, ValueText field.name text →
      ∃ change, ReadsBack (field.reader levels) text change ∧
        ∀ keys, change (having keys) = having (insert field.name keys))
    (known : ∀ member ∈ members, member.1 ∈ fields.map (·.name) →
      ValueText member.1 member.2.value)
    (unknown : ∀ member ∈ members, member.1 ∉ fields.map (·.name) → WellFormed member.2.value)
    (taken : List String) (once : (taken ++ fieldNames fields (members.map (·.1))).Nodup) :
    ∃ after, Gathers (Record.takeMember fields levels) (taken, having taken.toFinset)
        (members.map fun member => (member.1, member.2.value)) (after, having after.toFinset) ∧
      after.Perm (taken ++ fieldNames fields (members.map (·.1))) := by
  induction members generalizing taken with
  | nil => exact ⟨taken, .none _, by simp [fieldNames]⟩
  | cons member members ih =>
      obtain ⟨name, member⟩ := member
      obtain ⟨firstKnown, known⟩ := List.forall_mem_cons.1 known
      obtain ⟨firstUnknown, unknown⟩ := List.forall_mem_cons.1 unknown
      simp only [List.map_cons] at once ⊢
      cases found : fields.find? (·.name = name) with
      | none =>
          have absent : name ∉ fields.map (·.name) := by simpa using found
          have skipped : fieldNames fields (name :: members.map (·.1)) =
              fieldNames fields (members.map (·.1)) :=
            List.filter_cons_of_neg (by simpa using absent)
          rw [skipped] at once ⊢
          obtain ⟨after, gathers, order⟩ := ih known unknown taken once
          exact ⟨after, gathers.other found (firstUnknown absent), order⟩
      | some field =>
          have same : field.name = name := by simpa using List.find?_some found
          have inside : field ∈ fields := List.mem_of_find?_eq_some found
          have present : name ∈ fields.map (·.name) := List.mem_map.2 ⟨field, inside, same⟩
          have counted : fieldNames fields (name :: members.map (·.1)) =
              name :: fieldNames fields (members.map (·.1)) :=
            List.filter_cons_of_pos (by simpa using present)
          have moved : (taken ++ name :: fieldNames fields (members.map (·.1))).Perm
              (name :: taken ++ fieldNames fields (members.map (·.1))) := List.perm_middle
          rw [counted] at once ⊢
          have fresh : name ∉ taken := by
            intro member
            exact (List.nodup_append.1 once).2.2 name member name List.mem_cons_self rfl
          obtain ⟨change, reads, changed⟩ :=
            changes field inside _ (same ▸ firstKnown present)
          obtain ⟨after, gathers, order⟩ :=
            ih known unknown (name :: taken) (moved.nodup_iff.1 once)
          refine ⟨after, .field found fresh reads ?_, order.trans moved.symm⟩
          rwa [changed, same, ← List.toFinset_cons]

/-- A record is read back from members for some of its fields, if each field changes a
record that has some of them into one that has it, too. -/
theorem RecordText.reader {record : Record σ} {keys : Finset String}
    {ValueText : String → List Char → Prop} {text : List Char}
    (spells : RecordText (record.fields.map (·.name)) keys ValueText text)
    (having : Finset String → σ)
    (changes : ∀ field ∈ record.fields, ∀ text, ValueText field.name text →
      ∃ change, ReadsBack (field.reader levels) text change ∧
        ∀ keys, change (having keys) = having (insert field.name keys)) :
    ReadsBack (record.reader (having ∅) (levels + 1)) text (having keys) := by
  obtain ⟨named, given, once, known, unknown, body⟩ := spells
  obtain ⟨after, gathers, order⟩ := gathers_members having changes known unknown [] once
  have same : after.toFinset = keys := by
    ext name
    rw [List.mem_toFinset, order.mem_iff, given, List.nil_append, fieldNames, List.mem_filter,
      decide_eq_true_eq, and_comm]
  rw [same] at gathers
  exact readsBack_dispatch rfl rfl ((objectBody_bodyText named gathers body).map (·.2))

/-- Writing chooses one of the ways to write all fields of a record. -/
theorem recordText_written {ValueText : String → List Char → Prop}
    {entries : List (String × Value)} {spacing : Spacing} {level : Nat}
    (all : entries.map (·.1) = names) (distinct : names.Nodup)
    (values : ∀ entry ∈ entries, ValueText entry.1 (entry.2.written spacing (level + 1))) :
    RecordText names names.toFinset ValueText ((Value.object entries).written spacing level) := by
  obtain ⟨text, whole, body⟩ := bodyText_members entries (·.1)
    (fun entry => entry.2.written spacing (level + 1)) spacing level
  rw [Value.written_object, whole]
  let members := entries.map fun entry =>
    (entry.1, spacing.memberText entry.1 (entry.2.written spacing (level + 1)))
  have same : members.map (·.1) = names := by
    rw [List.map_map]
    exact all
  have named : ∀ member ∈ members, StringText member.1 member.2.key := by
    intro member written
    obtain ⟨entry, -, rfl⟩ := List.mem_map.1 written
    exact stringText_quote entry.1
  apply RecordText.intro named
  · intro name
    rw [same, List.mem_toFinset, and_self]
  · rw [same]
    exact distinct.filter _
  · intro member written _
    obtain ⟨entry, member, rfl⟩ := List.mem_map.1 written
    exact values entry member
  · intro member written other
    exact absurd (same ▸ List.mem_map_of_mem written) other
  · rwa [List.map_map]

end NodeDecl.Json
