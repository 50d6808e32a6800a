import NodeDecl.Config
import NodeDecl.Json.Document
import NodeDecl.Json.Record

/-!
# Configuration documents

How a configuration is read from a JSON text. Settings that a document leaves out
keep their defaults, one by one; a table of overrides replaces the default table
as a whole.
-/

namespace NodeDecl

open Json (Reader Record RecordField)

/-- A field that holds a string. -/
def stringField {σ : Type} (name : String) (set : String → σ → σ) : RecordField σ where
  name := name
  reader _ := Json.readString.map set

/-- A field that holds a list of strings. -/
def stringsField {σ : Type} (name : String) (set : List String → σ → σ) : RecordField σ where
  name := name
  reader levels := (Json.readStrings levels).map set

namespace OverrideTable

/-- The reader of tables of overrides: an object of objects of strings. -/
def reader (levels : Nat) : Reader OverrideTable :=
  (Json.readMap (fun inner => (Json.readMap (fun _ => Json.readString) inner).map
    fun fields => SortedMap.ofList fields.entries) levels).map
      fun kinds => SortedMap.ofList kinds.entries

end OverrideTable

namespace OutputPaths

/-- The fields of the output paths. -/
def record : Record OutputPaths where
  name := "OutputPaths"
  fields :=
    [stringField "catalogue" fun catalogue paths => { paths with catalogue },
     stringField "stub" fun stub paths => { paths with stub },
     stringField "wrapper" fun wrapper paths => { paths with wrapper }]

/-- The reader of output paths. -/
def reader : Nat → Reader OutputPaths :=
  record.reader {}

end OutputPaths

namespace Config

/-- The fields of a configuration. -/
def record : Record Config where
  name := "GeneratorConfig"
  fields :=
    [{ name := "overrides"
       reader := fun levels => (OverrideTable.reader levels).map fun overrides config =>
        { config with overrides } },
     stringField "universalAlias" fun universalAlias config => { config with universalAlias },
     stringField "nodeSuffix" fun nodeSuffix config => { config with nodeSuffix },
     stringField "reservedField" fun reservedField config => { config with reservedField },
     stringsField "keywords" fun keywords config => { config with keywords },
     stringField "engineClass" fun engineClass config => { config with engineClass },
     stringsField "catalogueTrailer" fun catalogueTrailer config =>
      { config with catalogueTrailer },
     { name := "outputs"
       reader := fun levels => (OutputPaths.reader levels).map fun outputs config =>
        { config with outputs } }]

/-- The reader of configurations. -/
def reader : Nat → Reader Config :=
  record.reader {}

end Config

end NodeDecl
