import NodeDecl.Config
import NodeDecl.Layout
import NodeDecl.Model

/-!
# The node catalogue

The declarations of all node types: one class for each kind, with its fields and
its aliases, and one union for each alias group, with its members. Lines of the
configuration follow at the end.
-/

namespace NodeDecl

/-- The line that marks a generated text. -/
def generatedBy : String :=
  "// generated by nodegen"

namespace Catalogue

/-- The type of positions in a source text. -/
def location : String :=
  "type Location = \x7bstart: \x7bline: number, column: number\x7d, " ++
    "end: \x7bline: number, column: number\x7d\x7d;"

/-- The mark in front of the type of something optional. -/
def optionalMark (optional : Bool) : String :=
  if optional then "?" else ""

/-- The line of a field. -/
def fieldLine (field : ResolvedField) : String :=
  field.name ++ ": " ++ optionalMark field.optional ++ field.rendered ++ ";"

/-- The class of a kind. -/
def classLayout (suffix : String) (kind : Kind) : Layout :=
  .block ("declare class " ++ kind.name ++ suffix ++ " \x7b") "\x7d" <|
    [.line ("type: '" ++ kind.name ++ "';"), .line "loc: ?Location;"] ++
    kind.fields.map (fun field => .line (fieldLine field)) ++
    [.blank] ++
    kind.aliases.map fun group => .line ("// alias: " ++ group)

/-- The union of an alias group. -/
def unionLayout (suffix : String) (group : String × List String) : Layout :=
  .block ("type " ++ group.1 ++ suffix ++ " = (") ");" <|
    group.2.map fun member => .line ("| " ++ member ++ suffix)

/-- The layout of the catalogue. -/
def layout (model : Model) (config : Config) : List Layout :=
  [.line "// @flow", .line generatedBy, .blank, .line location, .blank] ++
    model.kinds.flatMap (fun kind => [classLayout config.nodeSuffix kind, .blank]) ++
    model.groups.entries.flatMap
      (fun group => [unionLayout config.nodeSuffix group, .blank]) ++
    config.catalogueTrailer.map .line

/-- The text of the catalogue. -/
def render (model : Model) (config : Config) : String :=
  Layout.render (layout model config)

end Catalogue

end NodeDecl
