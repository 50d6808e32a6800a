import NodeDecl.Artifact.Catalogue
import NodeDecl.Text.LowerCase

/-!
# The interface stub

The types of the generated class: for each alias group an interface with a method
for each member, and for the class itself a builder for each kind, the tests,
assertions and conversions of each type name, and a dispatcher for each group.
-/

namespace NodeDecl

namespace Stub

/-- A builder parameter in a signature. -/
def parameterText (parameter : Parameter) : String :=
  parameter.name ++ ": " ++ Catalogue.optionalMark parameter.optional ++ parameter.rendered

/-- The signature of the builder of a kind. -/
def builderSignature (suffix : String) (kind : Kind) : String :=
  Text.lowerFirst kind.name ++ "(" ++ ", ".intercalate (kind.builder.map parameterText) ++
    "): " ++ kind.name ++ suffix ++ ";"

/-- The name of the interface of a group. -/
def switcherName (group : String) : String :=
  group ++ "Switcher"

/-- The interface of a group. -/
def switcherLayout (suffix : String) (group : String × List String) : Layout :=
  .block ("declare interface " ++ switcherName group.1 ++ "<T> \x7b") "\x7d" <|
    group.2.map fun member =>
      .line (Text.lowerFirst member ++ "(node: " ++ member ++ suffix ++ "): T;")

/-- The signature of the test for a type name. -/
def testSignature (universal name : String) : String :=
  "is" ++ name ++ "(value: " ++ universal ++ ", opts?: Object): boolean;"

/-- The signature of the assertion of a type name. -/
def assertionSignature (suffix name : String) : String :=
  "assert" ++ name ++ "(value: " ++ name ++ suffix ++ ", opts?: Object): mixed;"

/-- The signature of the conversion to a type name. -/
def conversionSignature (suffix universal name : String) : String :=
  "as" ++ name ++ "(value: " ++ universal ++ ", opts?: Object): " ++ name ++ suffix ++
    " | void;"

/-- The signature of the dispatcher of a group. -/
def dispatcherSignature (suffix group : String) : String :=
  "switch" ++ group ++ "<T>(node: " ++ group ++ suffix ++ ", switcher: " ++
    switcherName group ++ "<T>): T;"

/-- The layout of the generated class. -/
def classLayout (model : Model) (config : Config) : Layout :=
  let suffix := config.nodeSuffix
  let universal := config.universalAlias ++ suffix
  .block ("declare class " ++ config.engineClass ++ " \x7b") "\x7d" <|
    [.line ("constructor(t: Object): " ++ config.engineClass ++ ";")] ++
    model.kinds.map (fun kind => .line (builderSignature suffix kind)) ++
    model.typeNames.map (fun name => .line (testSignature universal name)) ++
    model.typeNames.map (fun name => .line (assertionSignature suffix name)) ++
    model.typeNames.map (fun name => .line (conversionSignature suffix universal name)) ++
    model.groups.keys.map fun group => .line (dispatcherSignature suffix group)

/-- The layout of the stub. -/
def layout (model : Model) (config : Config) : List Layout :=
  [.line "// @flow", .line generatedBy, .blank] ++
    model.groups.entries.flatMap
      (fun group => [switcherLayout config.nodeSuffix group, .blank]) ++
    [classLayout model config, .blank, .line ("export default " ++ config.engineClass ++ ";")]

/-- The text of the stub. -/
def render (model : Model) (config : Config) : String :=
  Layout.render (layout model config)

end Stub

end NodeDecl
