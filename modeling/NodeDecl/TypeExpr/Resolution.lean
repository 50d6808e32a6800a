import NodeDecl.Config
import NodeDecl.Schema.Registry
import NodeDecl.TypeExpr
import NodeDecl.TypeExpr.Literal

/-!
# From validators to types

The type of a field is the override given for it, or else the type that its
validator stands for, or `mixed` if it has neither. Validators that stand for no
type are refused together with the part of them that is to blame.
-/

namespace NodeDecl

open Json (Value)

/-- A validator that stands for no type, in its JSON form. -/
structure UnrecognizedShape where
  payload : Value
deriving DecidableEq, Repr

namespace UnrecognizedShape

/-- The words for the refusal. -/
def message (shape : UnrecognizedShape) : String :=
  "unrecognised validator shape: " ++ shape.payload.toText

end UnrecognizedShape

namespace Validator

/-- The type that some alternatives stand for, if there is any alternative. -/
def alternatives? (whole : Validator) (arms : List TypeExpr) :
    Except UnrecognizedShape TypeExpr :=
  match arms with
  | [] => .error ⟨whole.toJson⟩
  | arms => .ok (.ofArms arms)

/-- The type that a validator stands for. Two chains have a meaning: an array of
one kind of item, and a string out of a choice; the strings of such a choice are
written as in JSON. The part to blame is the whole validator, except inside the
items of an array. -/
def resolve : Validator → Except UnrecognizedShape TypeExpr
  | .exactType name => .ok (.named name)
  | .oneOfNodeTypes names => alternatives? (.oneOfNodeTypes names) (names.map .named)
  | .oneOfNodeOrValueTypes names =>
      alternatives? (.oneOfNodeOrValueTypes names) (names.map .named)
  | .oneOfLiterals literals =>
      alternatives? (.oneOfLiterals literals)
        (literals.map fun literal => .literal (Literal.text literal))
  | .chainOf [.exactType first, .each item] =>
      if first = "array" then item.resolve.map .readOnlyArray
      else .error ⟨(chainOf [.exactType first, .each item]).toJson⟩
  | .chainOf [.exactType first, .oneOfLiterals literals] =>
      if first = "string" then
        alternatives? (.chainOf [.exactType first, .oneOfLiterals literals])
          (literals.map fun literal => .literal literal.toText)
      else .error ⟨(chainOf [.exactType first, .oneOfLiterals literals]).toJson⟩
  | validator => .error ⟨validator.toJson⟩

end Validator

namespace FieldSpec

/-- The type of a field of a kind. -/
def resolve (spec : FieldSpec) (overrides : OverrideTable) (kind field : String) :
    Except UnrecognizedShape TypeExpr :=
  match overrides.find? kind field with
  | some text => .ok (.verbatim text)
  | none =>
      match spec.validator with
      | none => .ok .mixed
      | some validator => validator.resolve

end FieldSpec

end NodeDecl
