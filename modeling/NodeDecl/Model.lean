import NodeDecl.Json.Value
import NodeDecl.SortedMap
import NodeDecl.TypeExpr

/-!
# The resolved model

What the generated texts are made from: every kind with the types of its fields
and builder parameters, and the alias groups with their members. Next to each type
stands its text under the configured suffix. `toJson` is the form in which a
model is printed; it gives types by their texts.
-/

namespace NodeDecl

open Json (Value)

/-- A field of a node declaration. -/
structure ResolvedField where
  name : String
  type : TypeExpr
  rendered : String
  optional : Bool
deriving Repr, Inhabited

/-- A parameter of a builder. -/
structure Parameter where
  /-- The field that the parameter sets. -/
  field : String
  /-- The name of the parameter: that of the field, behind an underscore if it is a keyword. -/
  name : String
  type : TypeExpr
  rendered : String
  /-- Whether it may be left out: its field is optional or has a default. -/
  optional : Bool
deriving Repr, Inhabited

/-- A kind of node. -/
structure Kind where
  name : String
  fields : List ResolvedField
  builder : List Parameter
  /-- The declared aliases and the universal one. -/
  aliases : List String
deriving Repr, Inhabited

/-- All kinds in increasing order of names, and for each alias the names of the
kinds that have it. -/
structure Model where
  kinds : List Kind
  groups : SortedMap (List String)
deriving Repr, Inhabited

namespace ResolvedField

/-- The JSON form. -/
def toJson (field : ResolvedField) : Value :=
  .object
    [("name", .string field.name),
     ("ty", .string field.rendered),
     ("optional", .bool field.optional)]

end ResolvedField

namespace Parameter

/-- The JSON form. -/
def toJson (parameter : Parameter) : Value :=
  .object
    [("field", .string parameter.field),
     ("param", .string parameter.name),
     ("ty", .string parameter.rendered),
     ("optional", .bool parameter.optional)]

end Parameter

namespace Kind

/-- The JSON form. -/
def toJson (kind : Kind) : Value :=
  .object
    [("name", .string kind.name),
     ("fields", .array (kind.fields.map ResolvedField.toJson)),
     ("builder", .array (kind.builder.map Parameter.toJson)),
     ("aliases", .strings kind.aliases)]

end Kind

namespace Model

/-- The names of all kinds and aliases, in increasing order and each of them once. -/
def typeNames (model : Model) : List String :=
  sortedNames (model.kinds.map (·.name) ++ model.groups.keys)

/-- The JSON form. -/
def toJson (model : Model) : Value :=
  .object
    [("kinds", .array (model.kinds.map Kind.toJson)),
     ("aliases", .object (model.groups.entries.map fun (group, members) =>
      (group, .strings members)))]

end Model

end NodeDecl
