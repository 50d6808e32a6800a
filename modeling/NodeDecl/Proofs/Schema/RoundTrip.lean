import NodeDecl.Proofs.Json.Records
import NodeDecl.Proofs.Schema.Documents
import NodeDecl.Schema.Load

/-!
# Registries are read back

A registry that was read from a document is written as a document with the same kinds,
fields, validators and defaults in the same order, and reading that document gives the
registry again.  Each record is read back member by member from its own text.
-/

namespace NodeDecl

open Json (Value Reader Spacing ReadsBack Gathers Record RecordField)

/-! ## Records -/

namespace Json

variable {σ : Type} {levels : Nat}

/-- A record is read back from an object if its members lead to it. -/
theorem record_written {record : Record σ} {start value : σ} {names : List String}
    {members : List (String × List Char)} (spacing : Spacing) (level : Nat)
    (gathers : Gathers (Record.takeMember record.fields levels) ([], start) members
      (names, value)) :
    ReadsBack (record.reader start (levels + 1)) (spacing.object level members) value :=
  readsBack_dispatch rfl rfl ((objectBody_closed spacing gathers level).map (·.2))

/-- An object is read back as a map if each of its values is taken up under its key. -/
theorem map_written {α : Type} (toJson : α → Value)
    {take : OrderedMap α → String → Member (OrderedMap α)} {other : Reader (OrderedMap α)}
    {map : OrderedMap α} {spacing : Spacing} {level : Nat}
    (takes : ∀ sofar key value, key ∉ OrderedMap.keys sofar → (key, value) ∈ map.entries →
      ∃ reader, take sofar key = .value reader ∧
        ReadsBack reader ((toJson value).written spacing (level + 1))
          (.ok (sofar.insert key value))) :
    ReadsBack (.dispatch (· = '{') (some fun _ => objectBody take ∅) other)
      ((Value.object (map.entries.map fun (name, value) =>
        (name, toJson value))).written spacing level) map := by
  rw [written_object_map]
  apply readsBack_dispatch rfl rfl
  exact objectBody_closed spacing (Gathers.of_entries _ takes) level

end Json

/-- A value that is not `null` is read back. -/
theorem readUnlessNull_written {levels : Nat} {value : Value}
    (storable : Json.Storable levels value) (notNull : value ≠ .null)
    (whole : Json.AllWhole value.numbers) (spacing : Spacing) (level : Nat) :
    ReadsBack (readUnlessNull levels) (value.written spacing level) (some value) := by
  have reads := (Json.readValue_written storable whole spacing level).map
    fun value => if value = .null then none else some value
  rwa [if_neg notNull] at reads

/-! ## The numbers that a registry keeps -/

/-- The numbers in the validator and the default of a field. -/
def FieldSpec.keptNumbers (spec : FieldSpec) : List Json.Number :=
  spec.validator.toList.flatMap (fun validator => validator.toJson.numbers) ++
    spec.default.toList.flatMap Value.numbers

/-- The numbers in the fields of a kind. -/
def KindDefinition.keptNumbers (definition : KindDefinition) : List Json.Number :=
  definition.fields.entries.flatMap fun entry => entry.2.keptNumbers

/-- The numbers in a registry. -/
def Registry.keptNumbers (registry : Registry) : List Json.Number :=
  registry.kinds.entries.flatMap fun entry => entry.2.keptNumbers

/-! ## Field specifications -/

namespace FieldSpec

variable {levels : Nat} {validator : Option Validator} {optional : Bool} {default : Option Value}
  (spacing : Spacing) (level : Nat)

/-- The default is read back behind what was read before it. -/
theorem gathers_default {names : List String} (fresh : "default" ∉ names)
    (storable : FieldSpec.Storable levels { validator, optional, default })
    (whole : Json.AllWhole (default.toList.flatMap Value.numbers)) :
    ∃ after, Gathers (Record.takeMember record.fields levels) (names, { validator, optional })
      ((default.map fun value => ("default", value)).toList.map
        fun (key, value) => (key, value.written spacing level))
      (after, { validator, optional, default }) := by
  cases default with
  | none => exact ⟨names, .none _⟩
  | some value =>
      rcases storable.default value rfl with ⟨stored, notNull⟩
      have reads := readUnlessNull_written stored notNull
        (whole.of_flatMap List.mem_cons_self) spacing level
      exact ⟨_, Gathers.field rfl fresh (reads.map _) (.none _)⟩

/-- The validator is read back in front of what is read behind it. -/
theorem gathers_validator {members : List (String × List Char)}
    (storable : FieldSpec.Storable levels { validator, optional, default })
    (whole : Json.AllWhole (validator.toList.flatMap fun validator => validator.toJson.numbers))
    (others : ∀ names, "optional" ∉ names → "default" ∉ names →
      ∃ after, Gathers (Record.takeMember record.fields levels) (names, { validator }) members
        (after, { validator, optional, default })) :
    ∃ after, Gathers (Record.takeMember record.fields levels) ([], {})
      (((validator.map fun validator => ("validate", validator.toJson)).toList.map
        fun (key, value) => (key, value.written spacing level)) ++ members)
      (after, { validator, optional, default }) := by
  cases validator with
  | none => exact others [] (by simp) (by simp)
  | some validator =>
      rcases storable.validator validator rfl with ⟨rereads, notNull⟩
      have reads := readUnlessNull_written rereads.storable notNull
        (whole.of_flatMap List.mem_cons_self) spacing level
      rcases others ["validate"] (by decide) (by decide) with ⟨after, gathers⟩
      refine ⟨after, Gathers.field rfl (by simp) (reads.map _) ?_⟩
      simpa [rereads.again] using gathers

/-- A field specification is read back. -/
theorem reader_written {spec : FieldSpec} (storable : spec.Storable levels)
    (whole : Json.AllWhole spec.keptNumbers) :
    ReadsBack (FieldSpec.reader (levels + 1)) (spec.toJson.written spacing level) spec := by
  rcases spec with ⟨validator, optional, default⟩
  have wholeValidator : Json.AllWhole
      (validator.toList.flatMap fun validator => validator.toJson.numbers) :=
    fun number inside => whole number (List.mem_append_left _ inside)
  have wholeDefault : Json.AllWhole (default.toList.flatMap Value.numbers) :=
    fun number inside => whole number (List.mem_append_right _ inside)
  rw [toJson, Value.written_object, List.map_append, List.map_append, List.append_assoc]
  obtain ⟨after, gathers⟩ := gathers_validator spacing (level + 1) storable wholeValidator
    (by
      intro names noOptional noDefault
      have fresh : "default" ∉ "optional" :: names := by simpa using noDefault
      rcases gathers_default spacing (level + 1) fresh storable wholeDefault with ⟨after, gathers⟩
      exact ⟨after, Gathers.field rfl noOptional ((Json.readBool_compact optional).map _) gathers⟩)
  exact Json.record_written spacing level gathers

end FieldSpec

/-! ## Kind definitions -/

/-- A kind definition is read back. -/
theorem KindDefinition.reader_written {levels : Nat} {definition : KindDefinition}
    (storable : definition.Storable levels) (whole : Json.AllWhole definition.keptNumbers)
    (spacing : Spacing) (level : Nat) :
    ReadsBack (KindDefinition.reader (levels + 3)) (definition.toJson.written spacing level)
      definition := by
  have takes : ∀ sofar name spec, name ∉ OrderedMap.keys sofar →
      (name, spec) ∈ definition.fields.entries →
      ∃ reader, Json.takeEntry (FieldSpec.reader (levels + 1)) sofar name = .value reader ∧
        ReadsBack reader (spec.toJson.written spacing (level + 2))
          (.ok (sofar.insert name spec)) := by
    intro sofar name spec _ member
    have reads := FieldSpec.reader_written spacing (level + 2) (storable _ member)
      (whole.of_flatMap member)
    exact ⟨_, rfl, reads.map _⟩
  rw [toJson, Value.written_object]
  apply Json.record_written spacing level
  refine Gathers.field rfl (by simp)
    ((Json.stringsText_written definition.builder spacing (level + 1)).readStrings.map _) ?_
  apply Gathers.field rfl (by simp) ((Json.map_written FieldSpec.toJson takes).map _)
  exact Gathers.field rfl (by simp)
    ((Json.stringsText_written definition.aliases spacing (level + 1)).readStrings.map _) (.none _)

/-! ## Registries -/

namespace Registry

/-- A registry is read back. -/
theorem reader_written {levels : Nat} {registry : Registry}
    (storable : registry.Storable levels) (whole : Json.AllWhole registry.keptNumbers)
    (spacing : Spacing) (level : Nat) :
    ReadsBack (Registry.reader (levels + 5)) (registry.toJson.written spacing level)
      registry := by
  have takes : ∀ sofar name definition, name ∉ OrderedMap.keys sofar →
      (name, definition) ∈ registry.kinds.entries →
      ∃ reader, takeKind (levels + 3) sofar name = .value reader ∧
        ReadsBack reader (definition.toJson.written spacing (level + 2))
          (.ok (sofar.insert name definition)) := by
    intro sofar name definition fresh member
    have reads := (KindDefinition.reader_written (storable _ member)
      (whole.of_flatMap member) spacing (level + 2)).map fun definition =>
        if sofar.contains name then .error (Json.Reason.definedTwice "node kind" name)
        else Except.ok (sofar.insert name definition)
    rw [if_neg (by simpa using fresh)] at reads
    exact ⟨_, rfl, reads⟩
  rw [toJson, Value.written_object]
  apply Json.record_written spacing level
  exact Gathers.field rfl (by simp) ((Json.map_written KindDefinition.toJson takes).map _)
    (.none _)

/-- What it is for a document to be accepted. -/
theorem parse_eq_ok_iff {text origin : String} {registry : Registry} :
    parse text origin = .ok registry ↔
      ∃ rest, (Registry.reader Json.nestingLimit).run text.toList = .ok (registry, rest) := by
  rw [parse, Json.mapError_eq_ok, Json.parse_eq_ok_iff]

/-- A registry is read back from its text with any spacing. -/
theorem parse_written {registry : Registry}
    (storable : registry.Storable (Json.nestingLimit - 5))
    (whole : Json.AllWhole registry.keptNumbers) (spacing : Spacing) (origin : String) :
    parse (String.ofList (registry.toJson.written spacing 0)) origin = .ok registry := by
  have read := (reader_written storable whole spacing 0).parse Json.blank_nil Json.delimited_nil
  rw [List.nil_append, List.append_nil] at read
  rw [parse, read]
  rfl

/-- Writing an accepted registry, compact or pretty, and reading the text again gives
the registry again, with its kinds and their fields in the same order, and the same text
when it is written once more.  Only the numbers that it keeps must be integers. -/
theorem text_round_trip {text origin : String} {registry : Registry}
    (accepted : parse text origin = .ok registry)
    (whole : ∀ number ∈ registry.keptNumbers, ∃ integer, number = .integer integer)
    (origin' : String) :
    ∀ write ∈ [Value.toText, Value.toPrettyText], ∃ again,
      parse (write registry.toJson) origin' = .ok again ∧ again = registry ∧
        write again.toJson = write registry.toJson := by
  rcases parse_eq_ok_iff.1 accepted with ⟨rest, read⟩
  -- A registry, its kinds, a kind, its fields and a field take a level of nesting each.
  have storable : registry.Storable (Json.nestingLimit - 5) :=
    Registry.reader_yields 122 _ _ _ read
  intro write chosen
  refine ⟨registry, ?_, rfl, rfl⟩
  simp only [List.mem_cons, List.not_mem_nil, or_false] at chosen
  rcases chosen with rfl | rfl
  · rw [Value.toText, Value.compact_eq_written 0]
    exact parse_written storable whole .compact origin'
  · rw [Value.toPrettyText, Value.prettyAt_eq_written 0]
    exact parse_written storable whole .pretty origin'

/-- A document that gives its records as lists, with an unknown member in a validator and
with `null` for a default. -/
theorem text_round_trip_of_lists :
    let document := "[\x7b\"Leaf\": [[\"value\"], \x7b\"value\": " ++
      "[\x7b\"size\": 0.5, \"oneOf\": [-7, \"a\\n\"]\x7d, true, null]\x7d]\x7d]"
    let registry : Registry :=
      { kinds := { entries :=
        [("Leaf",
          { builder := ["value"]
            fields := { entries :=
              [("value",
                { validator := some (.oneOfLiterals [.number (.integer (-7)), .string "a\n"])
                  optional := true })] } })] } }
    parse document "leaf.json" = .ok registry ∧
      registry.keptNumbers = [.integer (-7)] ∧
      ∃ again, parse registry.toJson.toPrettyText "again.json" = .ok again ∧ again = registry ∧
        again.toJson.toPrettyText = registry.toJson.toPrettyText := by
  intro document registry
  have accepted : parse document "leaf.json" = .ok registry := by decide +kernel
  have numbers : registry.keptNumbers = [.integer (-7)] := by decide +kernel
  have whole : ∀ number ∈ registry.keptNumbers, ∃ integer, number = .integer integer := by
    intro number member
    rw [numbers] at member
    exact ⟨-7, List.mem_singleton.1 member⟩
  exact ⟨accepted, numbers,
    text_round_trip accepted whole "again.json" Value.toPrettyText (by simp)⟩

end Registry

end NodeDecl
