import NodeDecl.Proofs.Document.Fronts
import NodeDecl.Proofs.Json.Exchange

/-!
# Registries and configurations in either form

Every record of a document, from the registry down to a field specification and from the
configuration to its output paths, may be a list of its first fields or an object.  What a
list gives is said position by position.  The forms may be mixed in one document at will, and
a list with more items than fields spoils the document wherever it stands.
-/

namespace NodeDecl

open Json (Reader WellFormed ReadsBack Given SameText MapAlike MapOverfull RecordAlike
  RecordOverfull Exchanges Rejects Record exchanges_sameText rejects_nothing)

variable {α : Type}

/-! ## Items by position -/

/-- A field specification that a list gives. -/
structure FieldSpec.Positional (levels : Nat) (items : List (List Char)) (spec : FieldSpec) :
    Prop where
  few : items.length ≤ 3
  validator : ∃ value, Given (readUnlessNull levels) items[0]? none value ∧
    spec.validator = value.map Validator.ofJson
  optional : Given Json.readBool items[1]? false spec.optional
  default : Given (readUnlessNull levels) items[2]? none spec.default

/-- A kind definition that a list gives. -/
structure KindDefinition.Positional (levels : Nat) (items : List (List Char))
    (definition : KindDefinition) : Prop where
  few : items.length ≤ 3
  builder : Given (Json.readStrings levels) items[0]? [] definition.builder
  fields : Given (Json.readMap FieldSpec.reader levels) items[1]? ∅ definition.fields
  aliases : Given (Json.readStrings levels) items[2]? [] definition.aliases

/-- A registry that a list gives. -/
structure Registry.Positional (levels : Nat) (items : List (List Char)) (registry : Registry) :
    Prop where
  few : items.length ≤ 1
  kinds : Given (Registry.readKinds levels) items[0]? ∅ registry.kinds

/-- Output paths that a list gives. -/
structure OutputPaths.Positional (levels : Nat) (items : List (List Char)) (paths : OutputPaths) :
    Prop where
  few : items.length ≤ 3
  catalogue : Given Json.readString items[0]? "babel-nodes.js" paths.catalogue
  stub : Given Json.readString items[1]? "lib/index.js.flow" paths.stub
  wrapper : Given Json.readString items[2]? "src/index.js" paths.wrapper

/-- A configuration that a list gives. -/
structure Config.Positional (levels : Nat) (items : List (List Char)) (config : Config) :
    Prop where
  few : items.length ≤ 8
  overrides : Given (OverrideTable.reader levels) items[0]? defaultOverrides config.overrides
  universalAlias : Given Json.readString items[1]? "Babel" config.universalAlias
  nodeSuffix : Given Json.readString items[2]? "Node" config.nodeSuffix
  reservedField : Given Json.readString items[3]? "static" config.reservedField
  keywords : Given (Json.readStrings levels) items[4]? ["extends", "arguments", "static"]
    config.keywords
  engineClass : Given Json.readString items[5]? "BabelTypes" config.engineClass
  catalogueTrailer : Given (Json.readStrings levels) items[6]? [] config.catalogueTrailer
  outputs : Given (OutputPaths.reader levels) items[7]? {} config.outputs

section

variable {levels : Nat} {items : List (List Char)}

theorem FieldSpec.fills_iff {spec : FieldSpec} :
    Record.Fills levels record.fields {} items spec ↔ Positional levels items spec := by
  show Record.Fills levels record.fields {} (items.drop 0) spec ↔ _
  constructor
  · intro fills
    rcases fills.next none (readUnlessNull_sound levels) rfl rfl with ⟨validator, first, fills⟩
    rcases fills.next false Json.readBool_sound rfl rfl with ⟨optional, second, fills⟩
    rcases fills.next none (readUnlessNull_sound levels) rfl rfl with ⟨default, third, fills⟩
    rcases Record.fills_drop_nil.1 fills with ⟨few, rfl⟩
    exact ⟨few, ⟨validator, first, rfl⟩, second, third⟩
  · rintro ⟨few, ⟨validator, first, same⟩, second, third⟩
    refine first.fills rfl rfl (second.fills rfl rfl (third.fills rfl rfl ?_))
    refine Record.fills_drop_nil.2 ⟨few, ?_⟩
    rcases spec with ⟨_, optional, default⟩
    cases same
    rfl

theorem KindDefinition.fills_iff {definition : KindDefinition} :
    Record.Fills levels record.fields {} items definition ↔
      Positional levels items definition := by
  show Record.Fills levels record.fields {} (items.drop 0) definition ↔ _
  have strings := (Json.readStrings_closed levels).sound
  constructor
  · intro fills
    rcases fills.next [] strings rfl rfl with ⟨builder, first, fills⟩
    rcases fills.next ∅ (readSpecs_closed levels).sound rfl rfl with ⟨fields, second, fills⟩
    rcases fills.next [] strings rfl rfl with ⟨aliases, third, fills⟩
    rcases Record.fills_drop_nil.1 fills with ⟨few, rfl⟩
    exact ⟨few, first, second, third⟩
  · intro ⟨few, first, second, third⟩
    refine first.fills rfl rfl (second.fills rfl rfl (third.fills rfl rfl ?_))
    exact Record.fills_drop_nil.2 ⟨few, rfl⟩

theorem Registry.fills_iff {registry : Registry} :
    Record.Fills levels record.fields {} items registry ↔ Positional levels items registry := by
  show Record.Fills levels record.fields {} (items.drop 0) registry ↔ _
  constructor
  · intro fills
    rcases fills.next ∅ (readKinds_closed levels).sound rfl rfl with ⟨kinds, first, fills⟩
    rcases Record.fills_drop_nil.1 fills with ⟨few, rfl⟩
    exact ⟨few, first⟩
  · intro ⟨few, first⟩
    exact first.fills rfl rfl (Record.fills_drop_nil.2 ⟨few, rfl⟩)

theorem OutputPaths.fills_iff {paths : OutputPaths} :
    Record.Fills levels record.fields {} items paths ↔ Positional levels items paths := by
  show Record.Fills levels record.fields {} (items.drop 0) paths ↔ _
  have string := Json.readString_sound
  constructor
  · intro fills
    rcases fills.next _ string rfl rfl with ⟨catalogue, first, fills⟩
    rcases fills.next _ string rfl rfl with ⟨stub, second, fills⟩
    rcases fills.next _ string rfl rfl with ⟨wrapper, third, fills⟩
    rcases Record.fills_drop_nil.1 fills with ⟨few, rfl⟩
    exact ⟨few, first, second, third⟩
  · intro ⟨few, first, second, third⟩
    refine first.fills rfl rfl (second.fills rfl rfl (third.fills rfl rfl ?_))
    exact Record.fills_drop_nil.2 ⟨few, rfl⟩

theorem Config.fills_iff {config : Config} :
    Record.Fills levels record.fields {} items config ↔ Positional levels items config := by
  show Record.Fills levels record.fields {} (items.drop 0) config ↔ _
  have string := Json.readString_sound
  have strings := (Json.readStrings_closed levels).sound
  constructor
  · intro fills
    rcases fills.next _ (OverrideTable.reader_closed levels).sound rfl rfl with ⟨_, first, fills⟩
    rcases fills.next _ string rfl rfl with ⟨_, second, fills⟩
    rcases fills.next _ string rfl rfl with ⟨_, third, fills⟩
    rcases fills.next _ string rfl rfl with ⟨_, fourth, fills⟩
    rcases fills.next _ strings rfl rfl with ⟨_, fifth, fills⟩
    rcases fills.next _ string rfl rfl with ⟨_, sixth, fills⟩
    rcases fills.next _ strings rfl rfl with ⟨_, seventh, fills⟩
    rcases fills.next _ (OutputPaths.reader_closed levels).sound rfl rfl with ⟨_, eighth, fills⟩
    rcases Record.fills_drop_nil.1 fills with ⟨few, rfl⟩
    exact ⟨few, first, second, third, fourth, fifth, sixth, seventh, eighth⟩
  · intro ⟨few, first, second, third, fourth, fifth, sixth, seventh, eighth⟩
    refine first.fills rfl rfl (second.fills rfl rfl (third.fills rfl rfl ?_))
    refine fourth.fills rfl rfl (fifth.fills rfl rfl (sixth.fills rfl rfl ?_))
    refine seventh.fills rfl rfl (eighth.fills rfl rfl ?_)
    exact Record.fills_drop_nil.2 ⟨few, rfl⟩

end

/-! ## Forms at every place -/

/-- The fields of a field specification. -/
def FieldSpec.names : List String :=
  ["validate", "optional", "default"]

/-- The fields of a kind definition. -/
def KindDefinition.names : List String :=
  ["builder", "fields", "aliases"]

/-- The fields of a registry. -/
def Registry.names : List String :=
  ["nodes"]

/-- The fields of output paths. -/
def OutputPaths.names : List String :=
  ["catalogue", "stub", "wrapper"]

/-- The fields of a configuration. -/
def Config.names : List String :=
  ["overrides", "universalAlias", "nodeSuffix", "reservedField", "keywords", "engineClass",
    "catalogueTrailer", "outputs"]

/-- Two texts of a field specification that differ in form only. -/
def FieldSpec.Alike : List Char → List Char → Prop :=
  RecordAlike names fun _ => SameText

/-- Two texts of a kind definition that differ in the forms of their parts only. -/
def KindDefinition.Alike : List Char → List Char → Prop :=
  RecordAlike names fun
    | "fields" => MapAlike FieldSpec.Alike
    | _ => SameText

/-- Two texts of a registry that differ in the forms of their parts only. -/
def Registry.Alike : List Char → List Char → Prop :=
  RecordAlike names fun
    | "nodes" => MapAlike KindDefinition.Alike
    | _ => SameText

/-- Two texts of output paths that differ in form only. -/
def OutputPaths.Alike : List Char → List Char → Prop :=
  RecordAlike names fun _ => SameText

/-- Two texts of a configuration that differ in the forms of their parts only. -/
def Config.Alike : List Char → List Char → Prop :=
  RecordAlike names fun
    | "outputs" => OutputPaths.Alike
    | _ => SameText

/-- A field specification that is too long a list. -/
def FieldSpec.Overfull : List Char → Prop :=
  RecordOverfull names fun _ _ => False

/-- A kind definition that is too long a list, or has one in it. -/
def KindDefinition.Overfull : List Char → Prop :=
  RecordOverfull names fun
    | "fields" => MapOverfull FieldSpec.Overfull
    | _ => fun _ => False

/-- A registry that is too long a list, or has one in it. -/
def Registry.Overfull : List Char → Prop :=
  RecordOverfull names fun
    | "nodes" => MapOverfull KindDefinition.Overfull
    | _ => fun _ => False

/-- Output paths that are too long a list. -/
def OutputPaths.Overfull : List Char → Prop :=
  RecordOverfull names fun _ _ => False

/-- A configuration that is too long a list, or has one in it. -/
def Config.Overfull : List Char → Prop :=
  RecordOverfull names fun
    | "outputs" => OutputPaths.Overfull
    | _ => fun _ => False

theorem FieldSpec.exchanges : Exchanges reader Alike :=
  Record.exchanges rfl (by decide) fields_sound
    (fun _ => (exchanges_sameText reader).wellFormed)
    (fun field _ => exchanges_sameText field.reader) {}

theorem FieldSpec.rejects : Rejects reader Overfull :=
  Record.rejects rfl (by decide) fields_sound (fun _ _ => False.elim)
    (fun field _ => rejects_nothing field.reader) {}

theorem KindDefinition.exchanges : Exchanges reader Alike := by
  have specs : Exchanges (Json.readMap FieldSpec.reader) (MapAlike FieldSpec.Alike) :=
    Json.object_exchanges (fun inner => (FieldSpec.reader_closed inner).sound)
      (fun _ _ _ => ⟨_, rfl⟩) FieldSpec.exchanges
  refine Record.exchanges rfl (by decide) fields_sound ?_ ?_ {}
  · intro name
    split
    · exact specs.wellFormed
    · exact (exchanges_sameText reader).wellFormed
  · intro field member
    simp only [record, List.mem_cons, List.not_mem_nil, or_false] at member
    rcases member with rfl | rfl | rfl
    · exact exchanges_sameText _
    · exact specs.map (fun levels => (readSpecs_closed levels).sound) _
    · exact exchanges_sameText _

theorem KindDefinition.rejects : Rejects reader Overfull := by
  have specs : Rejects (Json.readMap FieldSpec.reader) (MapOverfull FieldSpec.Overfull) :=
    Json.object_rejects (fun inner => (FieldSpec.reader_closed inner).sound)
      (fun _ _ _ => ⟨_, rfl⟩) FieldSpec.rejects
  refine Record.rejects rfl (by decide) fields_sound ?_ ?_ {}
  · intro name text tooMany
    split at tooMany
    · exact List.mem_cons_of_mem _ List.mem_cons_self
    · cases tooMany
  · intro field member
    simp only [record, List.mem_cons, List.not_mem_nil, or_false] at member
    rcases member with rfl | rfl | rfl
    · exact rejects_nothing _
    · exact specs.map (fun levels => (readSpecs_closed levels).sound) _
    · exact rejects_nothing _

theorem Registry.exchanges : Exchanges reader Alike := by
  have kinds : Exchanges readKinds (MapAlike KindDefinition.Alike) :=
    Json.object_exchanges (fun inner => (KindDefinition.reader_closed inner).sound)
      (fun _ _ _ => ⟨_, rfl⟩) KindDefinition.exchanges
  refine Record.exchanges rfl (by decide) fields_sound ?_ ?_ {}
  · intro name
    split
    · exact kinds.wellFormed
    · exact (exchanges_sameText reader).wellFormed
  · intro field member
    simp only [record, List.mem_cons, List.not_mem_nil, or_false] at member
    subst member
    exact kinds.map (fun levels => (readKinds_closed levels).sound) _

theorem Registry.rejects : Rejects reader Overfull := by
  have kinds : Rejects readKinds (MapOverfull KindDefinition.Overfull) :=
    Json.object_rejects (fun inner => (KindDefinition.reader_closed inner).sound)
      (fun _ _ _ => ⟨_, rfl⟩) KindDefinition.rejects
  refine Record.rejects rfl (by decide) fields_sound ?_ ?_ {}
  · intro name text tooMany
    split at tooMany
    · exact List.mem_cons_self
    · cases tooMany
  · intro field member
    simp only [record, List.mem_cons, List.not_mem_nil, or_false] at member
    subst member
    exact kinds.map (fun levels => (readKinds_closed levels).sound) _

theorem OutputPaths.exchanges : Exchanges reader Alike :=
  Record.exchanges rfl (by decide) fields_sound
    (fun _ => (exchanges_sameText reader).wellFormed)
    (fun field _ => exchanges_sameText field.reader) {}

theorem OutputPaths.rejects : Rejects reader Overfull :=
  Record.rejects rfl (by decide) fields_sound (fun _ _ => False.elim)
    (fun field _ => rejects_nothing field.reader) {}

theorem Config.exchanges : Exchanges reader Alike := by
  refine Record.exchanges rfl (by decide) fields_sound ?_ ?_ {}
  · intro name
    split
    · exact OutputPaths.exchanges.wellFormed
    · exact (exchanges_sameText reader).wellFormed
  · intro field member
    simp only [record, List.mem_cons, List.not_mem_nil, or_false] at member
    rcases member with rfl | rfl | rfl | rfl | rfl | rfl | rfl | rfl
    -- only the last field holds a record
    rotate_left 7
    · exact OutputPaths.exchanges.map (fun levels => (OutputPaths.reader_closed levels).sound) _
    all_goals exact exchanges_sameText _

theorem Config.rejects : Rejects reader Overfull := by
  refine Record.rejects rfl (by decide) fields_sound ?_ ?_ {}
  · intro name text tooMany
    split at tooMany
    · decide
    · cases tooMany
  · intro field member
    simp only [record, List.mem_cons, List.not_mem_nil, or_false] at member
    rcases member with rfl | rfl | rfl | rfl | rfl | rfl | rfl | rfl
    rotate_left 7
    · exact OutputPaths.rejects.map (fun levels => (OutputPaths.reader_closed levels).sound) _
    all_goals exact rejects_nothing _

/-! ## Documents in any mix of forms -/

/-- Both forms of a record are read back, with at least one level of nesting left, exactly as
the record that the items give by position. -/
def FormsAgree (reader : Nat → Reader α) (names : List String)
    (positional : Nat → List (List Char) → α → Prop) : Prop :=
  ∀ levels items text value, (∀ item ∈ items, WellFormed item) →
    Record.FormText names items text →
      (ReadsBack (reader levels) text value ↔
        ∃ inner, levels = inner + 1 ∧ positional inner items value)

theorem Json.Record.formsAgree {record : Record α} {start : α} {names : List String}
    {positional : Nat → List (List Char) → α → Prop}
    (declared : record.fields.map (·.name) = names) (distinct : names.Nodup)
    (sound : ∀ field ∈ record.fields, ∀ levels, (field.reader levels).Sound)
    (fills_iff : ∀ levels items value,
      Record.Fills levels record.fields start items value ↔ positional levels items value) :
    FormsAgree (record.reader start) names positional := by
  intro levels items text value wellFormed form
  rw [form.readsBack_iff wellFormed sound declared distinct]
  simp only [fills_iff]

/-- Two values in front of documents are read alike: if one of the documents is accepted, the
other is accepted as the same. -/
def ReadAlike {ε : Type} (read : String → Except ε α) (left right : List Char) : Prop :=
  ∀ document document', BeginsWith left document → BeginsWith right document' →
    ∀ value, read document = .ok value ↔ read document' = .ok value

/-- No document with a value in front is accepted. -/
def NeverRead {ε : Type} (read : String → Except ε α) (inside : List Char) : Prop :=
  ∀ document, BeginsWith inside document → ∀ value, read document ≠ .ok value

section

variable {ε : Type} {reader : Nat → Reader α} (closed : (reader Json.nestingLimit).Closed)
  (wrap : Json.ParseError → ε)

include closed

theorem Json.Exchanges.readAlike {alike : List Char → List Char → Prop}
    (exchanges : Exchanges reader alike) {left right : List Char} (same : alike left right) :
    ReadAlike (fun text => (Json.parse reader text).mapError wrap) left right := by
  intro document document' begins begins' value
  rcases exchanges.wellFormed left right same with ⟨wellFormed, wellFormed'⟩
  rw [Json.mapError_eq_ok, Json.mapError_eq_ok, closed.parse_iff_readsBack begins wellFormed,
    closed.parse_iff_readsBack begins' wellFormed']
  exact exchanges.reads left right same Json.nestingLimit value

theorem Json.Rejects.neverRead {overfull : List Char → Prop} (rejects : Rejects reader overfull)
    {text : List Char} (tooMany : overfull text) :
    NeverRead (fun text => (Json.parse reader text).mapError wrap) text := by
  intro document begins value accepted
  have wellFormed := rejects.wellFormed text tooMany
  rw [Json.mapError_eq_ok, closed.parse_iff_readsBack begins wellFormed] at accepted
  exact rejects.reads text tooMany Json.nestingLimit value accepted

end

/-- The two forms of every record agree: a list of the first fields and an object that has
them are read as the same record, with the defaults for the other fields.  So the forms may be
mixed and exchanged at every place of a document.  A list with more items than fields is
refused at every place. -/
theorem forms_agree (origin : String) :
    (FormsAgree FieldSpec.reader FieldSpec.names FieldSpec.Positional ∧
      FormsAgree KindDefinition.reader KindDefinition.names KindDefinition.Positional ∧
      FormsAgree Registry.reader Registry.names Registry.Positional ∧
      FormsAgree OutputPaths.reader OutputPaths.names OutputPaths.Positional ∧
      FormsAgree Config.reader Config.names Config.Positional) ∧
    (∀ left right, Registry.Alike left right → ReadAlike (Registry.parse · origin) left right) ∧
    (∀ left right, Config.Alike left right → ReadAlike (Config.parse · origin) left right) ∧
    (∀ text, Registry.Overfull text → NeverRead (Registry.parse · origin) text) ∧
    ∀ text, Config.Overfull text → NeverRead (Config.parse · origin) text := by
  have registry := Registry.reader_closed Json.nestingLimit
  have config := Config.reader_closed Json.nestingLimit
  refine ⟨⟨?_, ?_, ?_, ?_, ?_⟩, ?_, ?_, ?_, ?_⟩
  · exact Record.formsAgree rfl (by decide) FieldSpec.fields_sound fun _ _ _ =>
      FieldSpec.fills_iff
  · exact Record.formsAgree rfl (by decide) KindDefinition.fields_sound fun _ _ _ =>
      KindDefinition.fills_iff
  · exact Record.formsAgree rfl (by decide) Registry.fields_sound fun _ _ _ =>
      Registry.fills_iff
  · exact Record.formsAgree rfl (by decide) OutputPaths.fields_sound fun _ _ _ =>
      OutputPaths.fills_iff
  · exact Record.formsAgree rfl (by decide) Config.fields_sound fun _ _ _ => Config.fills_iff
  · exact fun _ _ same => Registry.exchanges.readAlike registry (Failure.schema origin) same
  · exact fun _ _ same => Config.exchanges.readAlike config (Failure.config origin) same
  · exact fun _ tooMany => Registry.rejects.neverRead registry (Failure.schema origin) tooMany
  · exact fun _ tooMany => Config.rejects.neverRead config (Failure.config origin) tooMany

/-- Output paths as a list and as an object in a configuration, and a list with one path more
than there are. -/
theorem forms_agree_of_outputs :
    Config.parse "\x7b\"outputs\":[\"a.js\"]\x7d" "own.json" =
        .ok { outputs := { catalogue := "a.js" } } ∧
      Config.parse "\x7b\"outputs\":\x7b\"catalogue\":\"a.js\"\x7d\x7d" "own.json" =
        .ok { outputs := { catalogue := "a.js" } } ∧
      ∀ config, Config.parse "\x7b\"outputs\":[\"a\",\"a\",\"a\",\"a.js\"]\x7d" "own.json" ≠
        .ok config := by
  let object := Json.Spacing.compact.object 0
  let path := Json.quote "a.js"
  let other := Json.quote "a"
  have quoted : ∀ text, WellFormed (Json.quote text) := by
    intro text
    rcases (Json.stringText_quote text).loose with ⟨inside, same, loose⟩
    rw [same]
    exact .string loose
  have outputs : OutputPaths.Alike (Json.compactList [path]) (object [("catalogue", path)]) :=
    Json.recordAlike_compact [("catalogue", path, path)] ⟨["stub", "wrapper"], rfl⟩
      (List.forall_mem_singleton.2 ⟨rfl, quoted _⟩)
  have alike : Config.Alike (object [("outputs", Json.compactList [path])])
      (object [("outputs", object [("catalogue", path)])]) :=
    .members (Json.membersAlike_compact [("outputs", _, _)] (List.forall_mem_singleton.2 outputs))
  have items : ∀ item ∈ [other, other, other, path], WellFormed item := by
    simp [other, path, quoted]
  have surplus : OutputPaths.Overfull (Json.compactList [other, other, other, path]) :=
    .surplus items (by decide) (Json.listText_compact _)
  have overfull : Config.Overfull
      (object [("outputs", Json.compactList [other, other, other, path])]) :=
    .member (.intro (List.forall_mem_singleton.2 ((Json.listText_compact _).wellFormed items))
      List.mem_cons_self surplus (Json.objectText_closed _ _ _))
  have accepted : Config.parse "\x7b\"outputs\":[\"a.js\"]\x7d" "own.json" =
      .ok { outputs := { catalogue := "a.js" } } := by decide +kernel
  refine ⟨accepted, ?_, ?_⟩
  · refine ((forms_agree "own.json").2.2.1 _ _ alike _ _ ⟨[], [], Json.blank_nil, ?_⟩
      ⟨[], [], Json.blank_nil, ?_⟩ _).1 accepted
    · decide +kernel
    · decide +kernel
  · refine (forms_agree "own.json").2.2.2.2 _ overfull _ ⟨[], [], Json.blank_nil, ?_⟩
    decide +kernel

end NodeDecl
