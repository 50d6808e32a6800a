import NodeDecl.OrderedMap
import NodeDecl.Schema.Validator

/-!
# The schema registry

What a schema says about the kinds of nodes: which fields a kind has, which of
them its builder takes and in which order, and to which alias groups it belongs.
Kinds and fields keep the order in which the schema defines them. `toJson` writes
a registry back in the form in which schemas are given.
-/

namespace NodeDecl

open Json (Value)

/-- What a schema says about one field. -/
structure FieldSpec where
  validator : Option Validator := none
  optional : Bool := false
  default : Option Value := none
deriving DecidableEq, Repr, Inhabited

/-- What a schema says about one kind of node. -/
structure KindDefinition where
  /-- The fields that the builder takes, in the order of its arguments. -/
  builder : List String := []
  fields : OrderedMap FieldSpec := ∅
  aliases : List String := []
deriving DecidableEq, Repr, Inhabited

/-- The kinds of nodes by name. -/
structure Registry where
  kinds : OrderedMap KindDefinition := ∅
deriving DecidableEq, Repr, Inhabited

namespace FieldSpec

/-- Whether a value is supplied where none is given. -/
def hasDefault (spec : FieldSpec) : Bool :=
  spec.default.isSome

/-- The JSON form. A validator or a default that is missing is left out. -/
def toJson (spec : FieldSpec) : Value :=
  .object <|
    (spec.validator.map fun validator => ("validate", validator.toJson)).toList ++
    [("optional", .bool spec.optional)] ++
    (spec.default.map fun value => ("default", value)).toList

end FieldSpec

namespace KindDefinition

/-- The JSON form. -/
def toJson (definition : KindDefinition) : Value :=
  .object
    [("builder", .strings definition.builder),
     ("fields", .object (definition.fields.entries.map fun (name, spec) => (name, spec.toJson))),
     ("aliases", .strings definition.aliases)]

end KindDefinition

namespace Registry

/-- The JSON form. -/
def toJson (registry : Registry) : Value :=
  .object
    [("nodes", .object (registry.kinds.entries.map fun (name, definition) =>
      (name, definition.toJson)))]

/-- The kinds with their definitions in increasing order of names. -/
def sorted (registry : Registry) : List (String × KindDefinition) :=
  registry.kinds.entries.mergeSort fun left right => left.1 ≤ right.1

/-- The names of the kinds in increasing order. -/
def sortedNames (registry : Registry) : List String :=
  registry.sorted.map (·.1)

end Registry

end NodeDecl
