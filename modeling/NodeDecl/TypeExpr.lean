/-!
# Type expressions

The types that generated declarations mention: `mixed`, a text given verbatim, a
reference to the declared type of a node kind or alias, a primitive value type, a
literal, a union, and a read-only array. Only a reference depends on the suffix
that turns the name of a kind into the name of its declared type, so `render`
takes the suffix as an argument.
-/

namespace NodeDecl

/-- A type as the generated declarations write it. -/
inductive TypeExpr where
  /-- No constraint is known. -/
  | mixed
  /-- A type text taken over as it stands. -/
  | verbatim (text : String)
  /-- The declared type of a node kind or an alias. -/
  | nodeRef (name : String)
  /-- A primitive value type. -/
  | value (name : String)
  /-- A literal type, already written as source text. -/
  | literal (text : String)
  | union (arms : List TypeExpr)
  | readOnlyArray (item : TypeExpr)
deriving Repr, BEq, Inhabited

namespace TypeExpr

/-- Names that denote primitive values and never nodes. -/
def valueTypes : List String :=
  ["null", "string", "number", "boolean"]

/-- The type of a name: a primitive value type, or else a reference to a node. -/
def named (name : String) : TypeExpr :=
  if name ∈ valueTypes then .value name else .nodeRef name

/-- The union of some types. A union of one type is that type. -/
def ofArms : List TypeExpr → TypeExpr
  | [arm] => arm
  | arms => .union arms

mutual

/-- The text of a type, with `suffix` behind the name of every node it mentions. -/
def render (suffix : String) : TypeExpr → String
  | .mixed => "mixed"
  | .verbatim text => text
  | .nodeRef name => name ++ suffix
  | .value name => name
  | .literal text => text
  | .union arms => " | ".intercalate (renderArms suffix arms)
  | .readOnlyArray item => "$ReadOnlyArray<" ++ item.render suffix ++ ">"

/-- The texts of the arms of a union. -/
def renderArms (suffix : String) : List TypeExpr → List String
  | [] => []
  | arm :: rest => arm.render suffix :: renderArms suffix rest

end

theorem renderArms_eq_map (suffix : String) (arms : List TypeExpr) :
    renderArms suffix arms = arms.map (render suffix) := by
  induction arms with
  | nil => rfl
  | cons arm rest ih => simp [renderArms, ih]

/-- The text of a type under the usual suffix. -/
def display (type : TypeExpr) : String :=
  type.render "Node"

end TypeExpr

end NodeDecl
