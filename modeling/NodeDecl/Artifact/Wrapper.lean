import NodeDecl.Artifact.Catalogue
import NodeDecl.Text.LowerCase

/-!
# The runtime wrapper

The generated class itself. Builders, tests and assertions are passed on to the
wrapped object; a conversion is a test that returns its argument; and every
dispatcher calls the method of a switcher that is named after the type of a node.
-/

namespace NodeDecl

namespace Wrapper

/-- A method that passes its arguments on to the wrapped object. -/
def delegation (name : String) : Layout :=
  .line (name ++ "(...args) \x7b return this._t." ++ name ++ "(...args); \x7d")

/-- The conversion to a type name. -/
def conversion (name : String) : Layout :=
  .block ("as" ++ name ++ "(value, ...args) \x7b") "\x7d"
    [.line ("if (this.is" ++ name ++ "(value, ...args)) return value;"),
     .line "else return undefined;"]

/-- The method that all dispatchers share. -/
def sharedDispatcher : Layout :=
  .block "_switch(node, switcher) \x7b" "\x7d"
    [.line "const type = node.type[0].toLowerCase() + node.type.substr(1);",
     .line "return switcher[type](node);"]

/-- The dispatcher of a group. -/
def dispatcher (group : String) : Layout :=
  .block ("switch" ++ group ++ "(node, switcher) \x7b") "\x7d"
    [.line "return this._switch(node, switcher);"]

/-- The layout of the class. -/
def classLayout (model : Model) (config : Config) : Layout :=
  .block ("class " ++ config.engineClass ++ " \x7b") "\x7d" <|
    [.block "constructor(t) \x7b" "\x7d" [.line "this._t = t;"]] ++
    model.kinds.map (fun kind => delegation (Text.lowerFirst kind.name)) ++
    model.typeNames.map (fun name => delegation ("is" ++ name)) ++
    model.typeNames.map (fun name => delegation ("assert" ++ name)) ++
    model.typeNames.map conversion ++
    [sharedDispatcher] ++
    model.groups.keys.map dispatcher

/-- The layout of the wrapper. -/
def layout (model : Model) (config : Config) : List Layout :=
  [.line generatedBy, .blank, classLayout model config, .blank,
   .line ("export default " ++ config.engineClass ++ ";")]

/-- The text of the wrapper. -/
def render (model : Model) (config : Config) : String :=
  Layout.render (layout model config)

end Wrapper

end NodeDecl
