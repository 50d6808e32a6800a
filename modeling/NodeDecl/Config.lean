import NodeDecl.Json.Value
import NodeDecl.SortedMap

/-!
# The generator configuration

What a run of the generator may be told: types that override those of the schema,
names that the generated texts use, and where they go. Each setting has a default,
so a configuration only names what differs. `toJson` writes all settings.
-/

namespace NodeDecl

open Json (Value)

/-- Types given verbatim for single fields: by kind and then by field. -/
abbrev OverrideTable := SortedMap (SortedMap String)

/-- Where the generated texts go, below the output directory. -/
structure OutputPaths where
  catalogue : String := "babel-nodes.js"
  stub : String := "lib/index.js.flow"
  wrapper : String := "src/index.js"
deriving DecidableEq, Repr, Inhabited

/-- The overrides that hold unless a configuration gives others. -/
def defaultOverrides : OverrideTable :=
  .ofList
    [("ClassMethod", .ofList [("key", "Expression")]),
     ("Identifier", .ofList [("name", "string")]),
     ("MemberExpression", .ofList [("property", "Expression")]),
     ("ObjectMethod", .ofList [("key", "Expression")]),
     ("ObjectProperty", .ofList [("key", "Expression")])]

/-- The settings of the generator. -/
structure Config where
  overrides : OverrideTable := defaultOverrides
  /-- The alias that every kind has. -/
  universalAlias : String := "Babel"
  /-- What follows the name of a kind or alias in the name of its declared type. -/
  nodeSuffix : String := "Node"
  /-- The field that node declarations leave out. -/
  reservedField : String := "static"
  /-- Names that builder parameters cannot have as they are. -/
  keywords : List String := ["extends", "arguments", "static"]
  /-- The name of the generated class. -/
  engineClass : String := "BabelTypes"
  /-- Lines at the end of the catalogue. -/
  catalogueTrailer : List String := []
  outputs : OutputPaths := {}
deriving DecidableEq, Repr, Inhabited

namespace OverrideTable

/-- The type that overrides the one of a field. -/
def find? (table : OverrideTable) (kind field : String) : Option String :=
  (table.get? kind).bind (·.get? field)

/-- The JSON form, sorted by kind and field. -/
def toJson (table : OverrideTable) : Value :=
  .object (table.entries.map fun (kind, fields) =>
    (kind, .object (fields.entries.map fun (field, type) => (field, .string type))))

end OverrideTable

namespace OutputPaths

/-- The JSON form. -/
def toJson (paths : OutputPaths) : Value :=
  .object
    [("catalogue", .string paths.catalogue),
     ("stub", .string paths.stub),
     ("wrapper", .string paths.wrapper)]

end OutputPaths

namespace Config

/-- Whether builder parameters cannot have a name. -/
def isKeyword (config : Config) (name : String) : Bool :=
  config.keywords.contains name

/-- The JSON form. -/
def toJson (config : Config) : Value :=
  .object
    [("overrides", config.overrides.toJson),
     ("universalAlias", .string config.universalAlias),
     ("nodeSuffix", .string config.nodeSuffix),
     ("reservedField", .string config.reservedField),
     ("keywords", .strings config.keywords),
     ("engineClass", .string config.engineClass),
     ("catalogueTrailer", .strings config.catalogueTrailer),
     ("outputs", config.outputs.toJson)]

end Config

end NodeDecl
