import NodeDecl.Schema.Registry

/-!
# The order of fields

In a node declaration the fields that the builder takes come first, in the order
of its arguments, and all others follow in increasing order of names.
-/

namespace NodeDecl.KindDefinition

/-- Whether a field strictly precedes another one, given the arguments of the
builder. -/
def precedes (builder : List String) (left right : String) : Bool :=
  match builder.idxOf? left, builder.idxOf? right with
  | some i, some j => i < j
  | some _, none => true
  | none, some _ => false
  | none, none => left < right

/-- The fields with their specifications, in the order of the declaration. -/
def orderedFields (definition : KindDefinition) : List (String × FieldSpec) :=
  definition.fields.entries.mergeSort fun left right =>
    !precedes definition.builder right.1 left.1

/-- The names of the fields, in the order of the declaration. -/
def fieldOrder (definition : KindDefinition) : List String :=
  definition.orderedFields.map (·.1)

end NodeDecl.KindDefinition
