import NodeDecl.Proofs.Json.Numbers

/-!
# Values are read back

The values that a document can hold: nested no deeper than its limit, with integers
that fit and without a key that comes twice.  A value may be written in many ways, and it is
read back from each of them.  The text with any spacing is one of them, as long as the
numbers are integers.
-/

namespace NodeDecl.Json

/-- Whether a number is one that reading gives. -/
def Number.InRange : Number → Prop
  | .integer value => Fits value
  | .double _ => True

/-- The values that can be read with some levels of nesting left. -/
inductive Storable : Nat → Value → Prop
  | null {levels : Nat} : Storable levels .null
  | bool {levels : Nat} (value : Bool) : Storable levels (.bool value)
  | number {levels : Nat} {value : Number} (inRange : value.InRange) :
      Storable levels (.number value)
  | string {levels : Nat} (value : String) : Storable levels (.string value)
  | array {levels : Nat} {items : List Value} (storable : ∀ item ∈ items, Storable levels item) :
      Storable (levels + 1) (.array items)
  | object {levels : Nat} {members : List (String × Value)}
      (distinct : (members.map (·.1)).Nodup)
      (storable : ∀ member ∈ members, Storable levels member.2) :
      Storable (levels + 1) (.object members)

/-- All of some numbers are integers. -/
def AllWhole (numbers : List Number) : Prop :=
  ∀ number ∈ numbers, ∃ integer, number = .integer integer

/-- What is true of all numbers is true of those in one place. -/
theorem AllWhole.of_flatMap {α : Type} {values : List α} {numbers : α → List Number}
    (whole : AllWhole (values.flatMap numbers)) {value : α} (member : value ∈ values) :
    AllWhole (numbers value) := by
  intro number inside
  exact whole number (List.mem_flatMap.2 ⟨value, member, inside⟩)

namespace Value

mutual

/-- The numbers in a value. -/
def numbers : Value → List Number
  | .number value => [value]
  | .array items => numbersOfItems items
  | .object members => numbersOfMembers members
  | .null | .bool _ | .string _ => []

/-- The numbers in some items. -/
def numbersOfItems : List Value → List Number
  | [] => []
  | item :: rest => item.numbers ++ numbersOfItems rest

/-- The numbers in the values of some members. -/
def numbersOfMembers : List (String × Value) → List Number
  | [] => []
  | (_, value) :: rest => value.numbers ++ numbersOfMembers rest

end

/-- The numbers of an array are those of its items. -/
theorem numbers_array (items : List Value) :
    (array items).numbers = items.flatMap numbers := by
  rw [numbers]
  induction items with
  | nil => rfl
  | cons item rest ih => rw [numbersOfItems, ih, List.flatMap_cons]

/-- The numbers of an object are those of its values. -/
theorem numbers_object (members : List (String × Value)) :
    (object members).numbers = members.flatMap fun member => member.2.numbers := by
  rw [numbers]
  induction members with
  | nil => rfl
  | cons member rest ih => rw [numbersOfMembers, ih, List.flatMap_cons]

end Value

/-- A scalar is read back as a value, whatever nesting is left. -/
theorem Denotes.readValue {text : List Char} {value : Value} (denotes : Denotes text value)
    (levels : Nat) : ReadsBack (Json.readValue levels) text value := by
  cases levels with
  | zero => exact denotes.dispatch none
  | succ levels => exact denotes.dispatch (some (valueBody (Json.readValue levels)))

/-! ## Texts of values -/

/-- The ways to write a value.  A number is what its text is read as when it stands alone. -/
inductive TreeText : Value → List Char → Prop
  | null : TreeText .null "null".toList
  | bool (value : Bool) : TreeText (.bool value) (Value.bool value).compact
  | number {value : Number} {text : List Char} (spelled : NumberText text)
      (reads : scalar? text = some (.ok (.number value, []))) : TreeText (.number value) text
  | string {value : String} {text : List Char} (spelled : StringText value text) :
      TreeText (.string value) text
  | array {items : List (Value × List Char)} {text : List Char}
      (spelled : ∀ item ∈ items, TreeText item.1 item.2)
      (body : BodyText ']' (items.map (·.2)) text) :
      TreeText (.array (items.map (·.1))) ('[' :: text)
  | object {members : List ((String × Value) × MemberText)} {text : List Char}
      (keys : ∀ member ∈ members, StringText member.1.1 member.2.key)
      (spelled : ∀ member ∈ members, TreeText member.1.2 member.2.value)
      (body : BodyText '}' (members.map (·.2.text)) text) :
      TreeText (.object (members.map (·.1))) ('{' :: text)

theorem CharsText.loose {chars text : List Char} (spelled : CharsText chars text) :
    LooseText text := by
  induction spelled with
  | close => exact .close
  | more char _ ih =>
      cases char with
      | plain printable notQuote notBackslash => exact .plain printable notQuote notBackslash ih
      | short stands => exact .short stands ih
      | unit digits _ _ => exact .unit digits ih
      | pair first second _ _ => exact .unit first (.unit second ih)

theorem StringText.loose {string : String} {text : List Char} (spelled : StringText string text) :
    ∃ inside, text = '"' :: inside ∧ LooseText inside := by
  obtain ⟨chars⟩ := spelled
  exact ⟨_, rfl, chars.loose⟩

namespace TreeText

variable {value : Value} {text : List Char} {levels : Nat}

/-- A value may stand where nobody asks for it. -/
theorem wellFormed (spelled : TreeText value text) : WellFormed text := by
  induction spelled with
  | null => exact .null
  | bool value =>
      cases value with
      | true => exact .true
      | false => exact .false
  | number spelled _ => exact .number spelled
  | string spelled =>
      obtain ⟨inside, rfl, loose⟩ := spelled.loose
      exact .string loose
  | @array items _ _ body ih =>
      apply WellFormed.array _ body
      intro text written
      obtain ⟨item, member, rfl⟩ := List.mem_map.1 written
      exact ih item member
  | @object members text keys _ body ih =>
      have whole : members.map (·.2.text) = (members.map (·.2)).map (·.text) := by
        rw [List.map_map]
        rfl
      rw [whole] at body
      apply WellFormed.object _ _ body
      · intro text written
        obtain ⟨member, inside, rfl⟩ := List.mem_map.1 written
        exact (keys member inside).loose
      · intro text written
        obtain ⟨member, inside, rfl⟩ := List.mem_map.1 written
        exact ih member inside

/-- A scalar is read as a scalar. -/
theorem denotes (spelled : TreeText value text) (scalar : value.isScalar = true) :
    Denotes text value := by
  cases spelled with
  | null => exact denotes_null
  | bool value => exact denotes_bool value
  | number spelled reads => exact spelled.denotes reads
  | string spelled => exact spelled.denotes
  | array _ _ | object _ _ _ => contradiction

/-- A value that a document can hold is read back, however it is written. -/
theorem readValue (spelled : TreeText value text) (storable : Storable levels value) :
    ReadsBack (Json.readValue levels) text value := by
  induction spelled generalizing levels with
  | null => exact denotes_null.readValue levels
  | bool value => exact (denotes_bool value).readValue levels
  | number spelled reads => exact (spelled.denotes reads).readValue levels
  | string spelled => exact spelled.denotes.readValue levels
  | @array items _ _ body ih =>
      cases storable with
      | @array levels _ storable =>
          have reads : List.Forall₂ (ReadsBack (Json.readValue levels)) (items.map (·.2))
              (items.map (·.1)) := by
            rw [List.forall₂_map_left_iff, List.forall₂_map_right_iff, List.forall₂_same]
            intro item member
            exact ih item member (storable _ (List.mem_map_of_mem member))
          apply readsBack_dispatch rfl rfl
          exact (listBody_bodyText reads body).map Value.array
  | @object members text keys _ body ih =>
      cases storable with
      | @object levels _ distinct storable =>
          let map : OrderedMap Value := { entries := members.map (·.1), keys_nodup := distinct }
          have inside : ReadsInside (mapBody (Json.readValue levels)) text map := by
            apply mapBody_bodyText rfl keys _ body
            intro member written
            exact ih member written (storable _ (List.mem_map_of_mem written))
          apply readsBack_dispatch rfl rfl
          exact inside.map fun map => Value.object map.entries

end TreeText

/-! ## Written values -/

theorem integerText_toDigits (value : Nat) : IntegerText (Nat.toDigits 10 value) := by
  by_cases zero : value = 0
  · subst zero
    exact .zero
  · obtain ⟨c, others, equal, nonzero⟩ := toDigits_positive (Nat.pos_of_ne_zero zero)
    rw [equal]
    apply IntegerText.positive _ nonzero
    intro d member
    exact isDigit_of_mem_toDigits (equal ▸ member)

theorem numberText_integer (value : Int) : NumberText (Number.integer value).text := by
  cases value with
  | ofNat value =>
      rw [Int.ofNat_eq_natCast, Number.text_natural]
      have spelled := NumberText.intro (.inl rfl) (integerText_toDigits value) .none .none
      simpa using spelled
  | negSucc value =>
      rw [Number.text_negative]
      have spelled := NumberText.intro (.inr rfl) (integerText_toDigits (value + 1)) .none .none
      simpa using spelled

/-- Writing chooses one of the ways to write a value whose numbers are integers that fit. -/
theorem treeText_written {levels : Nat} {value : Value} (storable : Storable levels value)
    (whole : AllWhole value.numbers) (spacing : Spacing) (level : Nat) :
    TreeText value (value.written spacing level) := by
  induction storable generalizing level with
  | null => exact .null
  | bool value => exact .bool value
  | @number levels number inRange =>
      obtain ⟨integer, rfl⟩ := whole number (by simp [Value.numbers])
      have alone := (denotes_integer inRange).scalar [] delimited_nil
      rw [List.append_nil] at alone
      exact .number (numberText_integer integer) alone
  | string text => exact .string (stringText_quote text)
  | @array levels items _ ih =>
      rw [Value.numbers_array] at whole
      rw [Value.written_array]
      let texts := items.map fun item => (item, item.written spacing (level + 1))
      have same : texts.map (·.1) = items := by
        rw [List.map_map]
        exact List.map_id items
      have written : texts.map (·.2) = items.map (Value.written spacing (level + 1)) :=
        List.map_map
      have body := bodyText_closed ']' (spacing.gap_blank (level + 1)) (spacing.gap_blank level)
        (texts.map (·.2))
      have spelled : ∀ item ∈ texts, TreeText item.1 item.2 := by
        intro item member
        obtain ⟨item, inside, rfl⟩ := List.mem_map.1 member
        exact ih item inside (whole.of_flatMap inside) (level + 1)
      have array := TreeText.array spelled body
      rwa [same, written] at array
  | @object levels members _ _ ih =>
      rw [Value.numbers_object] at whole
      rw [Value.written_object]
      let texts := members.map fun member =>
        (member, spacing.memberText member.1 (member.2.written spacing (level + 1)))
      have same : texts.map (·.1) = members := by
        rw [List.map_map]
        exact List.map_id members
      have keys : ∀ member ∈ texts, StringText member.1.1 member.2.key := by
        intro member inside
        obtain ⟨member, -, rfl⟩ := List.mem_map.1 inside
        exact stringText_quote member.1
      have spelled : ∀ member ∈ texts, TreeText member.1.2 member.2.value := by
        intro member inside
        obtain ⟨member, among, rfl⟩ := List.mem_map.1 inside
        exact ih member among (whole.of_flatMap among) (level + 1)
      obtain ⟨text, equal, body⟩ := bodyText_members members (·.1)
        (fun member => member.2.written spacing (level + 1)) spacing level
      have written : texts.map (·.2.text) = members.map fun member =>
          (spacing.memberText member.1 (member.2.written spacing (level + 1))).text :=
        List.map_map
      rw [← written] at body
      have object := TreeText.object keys spelled body
      rwa [same, ← equal] at object

/-- A value that a document can hold, and whose numbers are integers, is read back from
its text with any spacing. -/
theorem readValue_written {levels : Nat} {value : Value} (storable : Storable levels value)
    (whole : AllWhole value.numbers) (spacing : Spacing) (level : Nat) :
    ReadsBack (readValue levels) (value.written spacing level) value :=
  (treeText_written storable whole spacing level).readValue storable

end NodeDecl.Json
