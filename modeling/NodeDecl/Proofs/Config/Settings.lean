import NodeDecl.Config.Load
import NodeDecl.Proofs.Json.Records

/-!
# Settings over defaults

A configuration document gives some of the settings, in any order and with any other
members between them.  It is read as the configuration that has these settings and the
defaults elsewhere; of the output paths, too, some may be given and others left out.  The
text that writes a configuration gives all settings.
-/

namespace NodeDecl

open Json (Value Spacing ReadsBack StringText StringsText MapText RecordText)

/-! ## Fields -/

section

variable {σ : Type} {levels : Nat} {text : List Char} {name : String} {having : Finset String → σ}

/-- A string that is set where it is to be. -/
theorem changes_stringField {string : String} {set : String → σ → σ}
    (spells : StringText string text)
    (sets : ∀ keys, set string (having keys) = having (insert name keys)) :
    ∃ change, ReadsBack ((stringField name set).reader levels) text change ∧
      ∀ keys, change (having keys) = having (insert name keys) :=
  ⟨set string, spells.readString.map set, sets⟩

/-- Some strings that are set where they are to be. -/
theorem changes_stringsField {strings : List String} {set : List String → σ → σ}
    (spells : StringsText strings text)
    (sets : ∀ keys, set strings (having keys) = having (insert name keys)) :
    ∃ change, ReadsBack ((stringsField name set).reader (levels + 1)) text change ∧
      ∀ keys, change (having keys) = having (insert name keys) :=
  ⟨set strings, spells.readStrings.map set, sets⟩

end

/-! ## Overrides -/

namespace OverrideTable

/-- The ways to write a table of overrides. -/
abbrev TableText (table : OverrideTable) : List Char → Prop :=
  MapText (fun fields => MapText StringText fields.entries) table.entries

variable {levels : Nat} {table : OverrideTable} {text : List Char}

theorem TableText.reader (spells : table.TableText text) :
    ReadsBack (OverrideTable.reader (levels + 2)) text table := by
  apply MapText.readSorted spells
  intro fields text spells
  apply spells.readSorted
  intro type text spells
  exact spells.readString

theorem tableText_written (table : OverrideTable) (spacing : Spacing) (level : Nat) :
    table.TableText (table.toJson.written spacing level) := by
  apply Json.mapText_written fun fields : SortedMap String =>
    Value.object (fields.entries.map fun entry => (entry.1, .string entry.2))
  intro entry _
  apply Json.mapText_written Value.string
  intro entry _
  exact Json.stringText_quote entry.2

end OverrideTable

/-! ## Output paths -/

namespace OutputPaths

/-- Some of the output paths, and the defaults for the others. -/
def given (paths : OutputPaths) (keys : Finset String) : OutputPaths where
  catalogue := if "catalogue" ∈ keys then paths.catalogue else ({} : OutputPaths).catalogue
  stub := if "stub" ∈ keys then paths.stub else ({} : OutputPaths).stub
  wrapper := if "wrapper" ∈ keys then paths.wrapper else ({} : OutputPaths).wrapper

/-- The ways to write the path of a name. -/
def PathText (paths : OutputPaths) (name : String) (text : List Char) : Prop :=
  match name with
  | "catalogue" => StringText paths.catalogue text
  | "stub" => StringText paths.stub text
  | "wrapper" => StringText paths.wrapper text
  | _ => False

/-- The ways to write some of the output paths. -/
abbrev ObjectText (paths : OutputPaths) (keys : Finset String) : List Char → Prop :=
  RecordText (record.fields.map (·.name)) keys paths.PathText

variable {levels : Nat} {paths : OutputPaths} {keys : Finset String} {text : List Char}

theorem ObjectText.reader (spells : paths.ObjectText keys text) :
    ReadsBack (OutputPaths.reader (levels + 1)) text (paths.given keys) := by
  have begins : paths.given ∅ = {} := by simp [given]
  have reads : ReadsBack (record.reader (paths.given ∅) (levels + 1)) text (paths.given keys) := by
    apply RecordText.reader spells
    intro field member text spells
    simp only [record, List.mem_cons, List.not_mem_nil, or_false] at member
    obtain rfl | rfl | rfl := member
    · exact changes_stringField spells fun keys => by simp [given]
    · exact changes_stringField spells fun keys => by simp [given]
    · exact changes_stringField spells fun keys => by simp [given]
  rwa [begins] at reads

/-- The names of the output paths. -/
def allNames : Finset String :=
  (record.fields.map (·.name)).toFinset

theorem given_allNames (paths : OutputPaths) : paths.given allNames = paths := by
  simp [given, allNames, record, stringField]

theorem objectText_written (paths : OutputPaths) (spacing : Spacing) (level : Nat) :
    paths.ObjectText allNames (paths.toJson.written spacing level) := by
  refine Json.recordText_written rfl (by decide) ?_
  intro entry member
  simp only [List.mem_cons, List.not_mem_nil, or_false] at member
  obtain rfl | rfl | rfl := member
  · exact Json.stringText_quote paths.catalogue
  · exact Json.stringText_quote paths.stub
  · exact Json.stringText_quote paths.wrapper

end OutputPaths

/-! ## Configurations -/

namespace Config

/-- Some of the settings, and the defaults for the others.  Where the output paths are
among them, so are only some of these. -/
def given (config : Config) (keys paths : Finset String) : Config where
  overrides := if "overrides" ∈ keys then config.overrides else ({} : Config).overrides
  universalAlias :=
    if "universalAlias" ∈ keys then config.universalAlias else ({} : Config).universalAlias
  nodeSuffix := if "nodeSuffix" ∈ keys then config.nodeSuffix else ({} : Config).nodeSuffix
  reservedField :=
    if "reservedField" ∈ keys then config.reservedField else ({} : Config).reservedField
  keywords := if "keywords" ∈ keys then config.keywords else ({} : Config).keywords
  engineClass := if "engineClass" ∈ keys then config.engineClass else ({} : Config).engineClass
  catalogueTrailer :=
    if "catalogueTrailer" ∈ keys then config.catalogueTrailer else ({} : Config).catalogueTrailer
  outputs := if "outputs" ∈ keys then config.outputs.given paths else ({} : Config).outputs

/-- The ways to write the setting of a name, with some of the output paths. -/
def SettingText (config : Config) (paths : Finset String) (name : String) (text : List Char) :
    Prop :=
  match name with
  | "overrides" => config.overrides.TableText text
  | "universalAlias" => StringText config.universalAlias text
  | "nodeSuffix" => StringText config.nodeSuffix text
  | "reservedField" => StringText config.reservedField text
  | "keywords" => StringsText config.keywords text
  | "engineClass" => StringText config.engineClass text
  | "catalogueTrailer" => StringsText config.catalogueTrailer text
  | "outputs" => config.outputs.ObjectText paths text
  | _ => False

/-- The ways to write some of the settings. -/
abbrev ObjectText (config : Config) (keys paths : Finset String) : List Char → Prop :=
  RecordText (record.fields.map (·.name)) keys (config.SettingText paths)

variable {levels : Nat} {config : Config} {keys paths : Finset String} {text : List Char}

theorem ObjectText.reader (spells : config.ObjectText keys paths text) :
    ReadsBack (Config.reader (levels + 3)) text (config.given keys paths) := by
  have begins : config.given ∅ paths = {} := by simp [given]
  have reads : ReadsBack (record.reader (config.given ∅ paths) (levels + 3)) text
      (config.given keys paths) := by
    apply RecordText.reader spells (config.given · paths)
    intro field member text spells
    simp only [record, List.mem_cons, List.not_mem_nil, or_false] at member
    obtain rfl | rfl | rfl | rfl | rfl | rfl | rfl | rfl := member
    · exact ⟨_, (OverrideTable.TableText.reader spells).map _, fun keys => by simp [given]⟩
    · exact changes_stringField spells fun keys => by simp [given]
    · exact changes_stringField spells fun keys => by simp [given]
    · exact changes_stringField spells fun keys => by simp [given]
    · exact changes_stringsField spells fun keys => by simp [given]
    · exact changes_stringField spells fun keys => by simp [given]
    · exact changes_stringsField spells fun keys => by simp [given]
    · exact ⟨_, (OutputPaths.ObjectText.reader spells).map _, fun keys => by simp [given]⟩
  rwa [begins] at reads

/-- The names of the settings. -/
def allNames : Finset String :=
  (record.fields.map (·.name)).toFinset

theorem given_allNames (config : Config) :
    config.given allNames OutputPaths.allNames = config := by
  simp [given, allNames, record, stringField, stringsField, OutputPaths.given_allNames]

theorem objectText_written (config : Config) (spacing : Spacing) (level : Nat) :
    config.ObjectText allNames OutputPaths.allNames (config.toJson.written spacing level) := by
  refine Json.recordText_written rfl (by decide) ?_
  intro entry member
  simp only [List.mem_cons, List.not_mem_nil, or_false] at member
  obtain rfl | rfl | rfl | rfl | rfl | rfl | rfl | rfl := member
  · exact config.overrides.tableText_written spacing (level + 1)
  · exact Json.stringText_quote config.universalAlias
  · exact Json.stringText_quote config.nodeSuffix
  · exact Json.stringText_quote config.reservedField
  · exact Json.stringsText_written config.keywords spacing (level + 1)
  · exact Json.stringText_quote config.engineClass
  · exact Json.stringsText_written config.catalogueTrailer spacing (level + 1)
  · exact config.outputs.objectText_written spacing (level + 1)

/-- A text for some of the settings is read as these settings over the defaults. -/
theorem parse_objectText (spells : config.ObjectText keys paths text) {before after : List Char}
    (beforeBlank : Json.Blank before) (afterBlank : Json.Blank after) (origin : String) :
    parse (String.ofList (before ++ (text ++ after))) origin = .ok (config.given keys paths) := by
  have reads : ReadsBack (Config.reader Json.nestingLimit) text (config.given keys paths) :=
    ObjectText.reader spells
  rw [parse, reads.parse beforeBlank afterBlank.toDelimited]
  rfl

/-- The text that writes a configuration is read as that configuration. -/
theorem parse_written (config : Config) (spacing : Spacing) (origin : String) :
    parse (String.ofList (config.toJson.written spacing 0)) origin = .ok config := by
  have read := parse_objectText (config.objectText_written spacing 0) Json.blank_nil
    Json.blank_nil origin
  rwa [List.nil_append, List.append_nil, given_allNames] at read

/-- **Settings are read over the defaults, one by one.**  An object that gives some of the
settings of a configuration, and of its output paths, is read as the configuration that
has these and the defaults elsewhere; and the text that writes the configuration, compact
or pretty, is read as that configuration. -/
theorem parse_settings (config : Config) (origin : String) :
    (∀ (keys paths : Finset String) (before text after : List Char), Json.Blank before →
      config.ObjectText keys paths text → Json.Blank after →
      parse (String.ofList (before ++ (text ++ after))) origin = .ok (config.given keys paths)) ∧
    ∀ write ∈ [Value.toText, Value.toPrettyText],
      parse (write config.toJson) origin = .ok config := by
  constructor
  · intro keys paths before text after beforeBlank spells afterBlank
    exact parse_objectText spells beforeBlank afterBlank origin
  · intro write chosen
    simp only [List.mem_cons, List.not_mem_nil, or_false] at chosen
    obtain rfl | rfl := chosen
    · rw [Value.toText, Value.compact_eq_written 0]
      exact parse_written config .compact origin
    · rw [Value.toPrettyText, Value.prettyAt_eq_written 0]
      exact parse_written config .pretty origin

/-- A document with two settings, one of the output paths, and a member of another name. -/
theorem parse_settings_of_two :
    let config : Config := { universalAlias := "Node", outputs := { stub := "index.flow" } }
    parse "\x7b\"x\":[null],\"outputs\":\x7b\"stub\":\"index.flow\"\x7d,\"universalAlias\":\"Node\"\x7d\n"
      "nodegen.json" = .ok config := by
  intro config
  have blank := Json.blank_nil
  let member := Spacing.compact.memberText
  let stub : List (String × Json.MemberText) := [("stub", member "stub" (Json.quote "index.flow"))]
  let paths := '{' :: Json.closed '}' [] [] (stub.map (·.2.text))
  let members : List (String × Json.MemberText) :=
    [("x", member "x" "[null]".toList), ("outputs", member "outputs" paths),
     ("universalAlias", member "universalAlias" (Json.quote "Node"))]
  let text := '{' :: Json.closed '}' [] [] (members.map (·.2.text))
  have pathsText : config.outputs.ObjectText {"stub"} paths := by
    have named : ∀ entry ∈ stub, StringText entry.1 entry.2.key := by
      intro entry inside
      obtain rfl := List.mem_singleton.1 inside
      exact Json.stringText_quote "stub"
    apply RecordText.intro named _ (by decide) _ _ (Json.bodyText_closed _ blank blank _)
    · intro name
      simp only [Finset.mem_singleton, stub, List.map_cons, List.map_nil, List.mem_singleton]
      exact ⟨fun same => ⟨same ▸ by decide, same⟩, And.right⟩
    · intro entry inside _
      obtain rfl := List.mem_singleton.1 inside
      exact Json.stringText_quote "index.flow"
    · intro entry inside other
      obtain rfl := List.mem_singleton.1 inside
      exact absurd other (by decide)
  have spells : config.ObjectText {"universalAlias", "outputs"} {"stub"} text := by
    have named : ∀ entry ∈ members, StringText entry.1 entry.2.key := by
      intro entry inside
      simp only [members, List.mem_cons, List.not_mem_nil, or_false] at inside
      obtain rfl | rfl | rfl := inside
      · exact Json.stringText_quote "x"
      · exact Json.stringText_quote "outputs"
      · exact Json.stringText_quote "universalAlias"
    apply RecordText.intro named _ (by decide) _ _ (Json.bodyText_closed _ blank blank _)
    · intro name
      simp [members, record, stringField, stringsField]
      grind
    · intro entry inside known
      simp only [members, List.mem_cons, List.not_mem_nil, or_false] at inside
      obtain rfl | rfl | rfl := inside
      · exact absurd known (by decide)
      · exact pathsText
      · exact Json.stringText_quote "Node"
    · intro entry inside other
      simp only [members, List.mem_cons, List.not_mem_nil, or_false] at inside
      obtain rfl | rfl | rfl := inside
      · have items : ∀ item ∈ ["null".toList], Json.WellFormed item := by
          intro item inside
          obtain rfl := List.mem_singleton.1 inside
          exact .null
        exact .array items (Json.bodyText_closed _ blank blank _)
      · exact absurd other (by decide)
      · exact absurd other (by decide)
  have read := (parse_settings config "nodegen.json").1 _ _ [] text ['\n'] Json.blank_nil spells
    (by simp [Json.Blank, Json.isBlank])
  have same : config.given {"universalAlias", "outputs"} {"stub"} = config := by
    simp [given, OutputPaths.given, config]
  rw [same] at read
  exact read

end Config

end NodeDecl
