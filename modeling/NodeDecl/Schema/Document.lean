import NodeDecl.Json.Document
import NodeDecl.Json.Record
import NodeDecl.Schema.Registry

/-!
# Schema documents

How a registry is read from a JSON text. Registries, kind definitions and field
specifications are records with every field optional. A kind may be defined only
once in a document, while a field that is given twice takes its last
specification. A validator or a default of `null` is none at all.
-/

namespace NodeDecl

open Json (Value Reader Record Member)

namespace Validator

/-- A validator is read from any JSON value. -/
def reader (levels : Nat) : Reader Validator :=
  (Json.readValue levels).map ofJson

end Validator

/-- Any JSON value, where `null` stands for none. -/
def readUnlessNull (levels : Nat) : Reader (Option Value) :=
  (Json.readValue levels).map fun value => if value = .null then none else some value

namespace FieldSpec

/-- The fields of a field specification. -/
def record : Record FieldSpec where
  name := "FieldSpec"
  fields :=
    [{ name := "validate"
       reader := fun levels => (readUnlessNull levels).map fun value spec =>
        { spec with validator := value.map Validator.ofJson } },
     { name := "optional"
       reader := fun _ => Json.readBool.map fun optional spec => { spec with optional } },
     { name := "default"
       reader := fun levels => (readUnlessNull levels).map fun value spec =>
        { spec with default := value } }]

/-- The reader of field specifications. -/
def reader : Nat → Reader FieldSpec :=
  record.reader {}

end FieldSpec

namespace KindDefinition

/-- The fields of a kind definition. -/
def record : Record KindDefinition where
  name := "NodeKindSchema"
  fields :=
    [{ name := "builder"
       reader := fun levels => (Json.readStrings levels).map fun builder definition =>
        { definition with builder } },
     { name := "fields"
       reader := fun levels => (Json.readMap FieldSpec.reader levels).map fun fields definition =>
        { definition with fields } },
     { name := "aliases"
       reader := fun levels => (Json.readStrings levels).map fun aliases definition =>
        { definition with aliases } }]

/-- The reader of kind definitions. -/
def reader : Nat → Reader KindDefinition :=
  record.reader {}

end KindDefinition

namespace Registry

/-- Take up the definition of a kind, unless the kind is defined already. -/
def takeKind (levels : Nat) (kinds : OrderedMap KindDefinition) (name : String) :
    Member (OrderedMap KindDefinition) :=
  .value ((KindDefinition.reader levels).map fun definition =>
    if kinds.contains name then .error (.definedTwice "node kind" name)
    else .ok (kinds.insert name definition))

/-- An object of kind definitions. -/
def readKinds : Nat → Reader (OrderedMap KindDefinition) :=
  .nested (· = '{') (fun levels _ => Json.objectBody (takeKind levels) ∅)
    (.refuse (Json.mismatch "a map of node kind definitions"))

/-- The fields of a registry. -/
def record : Record Registry where
  name := "SchemaRegistry"
  fields :=
    [{ name := "nodes"
       reader := fun levels => (readKinds levels).map fun kinds _ => { kinds } }]

/-- The reader of registries. -/
def reader : Nat → Reader Registry :=
  record.reader {}

end Registry

end NodeDecl
