import NodeDecl.Model
import NodeDecl.Model.FieldOrder
import NodeDecl.TypeExpr.Resolution

/-!
# Building the model

A registry is resolved kind by kind in increasing order of names. Building stops
at the first fault; a validator that stands for no type is no fault, it is
reported by a warning and its field becomes `mixed`. A build keeps the warnings
that were given before it stopped.
-/

namespace NodeDecl

open Json (Value)

/-- A field whose validator stands for no type, and the part that is to blame. -/
structure Warning where
  /-- The kind and the field, with a dot between them. -/
  field : String
  validator : Value
deriving DecidableEq, Repr

/-- Why a registry has no model. -/
inductive BuildError where
  /-- The builder of a kind takes a field that the kind does not have. -/
  | missingField (kind field : String)
  /-- A kind or an alias cannot be the name of a type. -/
  | invalidIdentifier (name : String)
deriving DecidableEq, Repr

namespace BuildError

/-- The words for a fault. -/
def message : BuildError → String
  | .missingField kind field =>
      "node kind `" ++ kind ++ "` lists builder field `" ++ field ++
        "` which has no field definition"
  | .invalidIdentifier name => "`" ++ name ++ "` is not a valid identifier"

end BuildError

/-- A build in progress: the warnings so far, and what came of it. -/
structure Build (α : Type) where
  warnings : List Warning
  outcome : Except BuildError α
deriving Repr

namespace Build

variable {α β : Type}

/-- A build that stops. -/
def fail (error : BuildError) : Build α :=
  { warnings := [], outcome := .error error }

/-- A build that gives warnings and goes on. -/
def warn (warnings : List Warning) : Build Unit :=
  { warnings, outcome := .ok () }

/-- Go on with the outcome of a build, unless it has stopped. -/
def bind (build : Build α) (next : α → Build β) : Build β :=
  match build.outcome with
  | .error error => { warnings := build.warnings, outcome := .error error }
  | .ok value =>
      { warnings := build.warnings ++ (next value).warnings, outcome := (next value).outcome }

instance : Monad Build where
  pure value := { warnings := [], outcome := .ok value }
  bind := bind

/-- Stop at the first name that is no identifier. -/
def requireAll (holds : String → Bool) (error : String → BuildError) (names : List String) :
    Build Unit :=
  match names.find? fun name => !holds name with
  | some name => fail (error name)
  | none => pure ()

end Build

/-- A character that an identifier may begin with. -/
def isIdentifierStart (c : Char) : Bool :=
  c.isAlpha || c = '_' || c = '$'

/-- A character that an identifier may go on with. -/
def isIdentifierRest (c : Char) : Bool :=
  isIdentifierStart c || c.isDigit

/-- Identifiers consist of ASCII letters, digits, underscores and dollar signs, and
do not begin with a digit. -/
def isIdentifier (name : String) : Bool :=
  match name.toList with
  | [] => false
  | c :: rest => isIdentifierStart c && rest.all isIdentifierRest

/-- The type of a field. If the validator stands for no type, it is `mixed`, and there is a
warning. -/
def FieldSpec.settle (spec : FieldSpec) (config : Config) (kind field : String) :
    Build TypeExpr :=
  match spec.resolve config.overrides kind field with
  | .ok type => return type
  | .error shape => do
      Build.warn [{ field := kind ++ "." ++ field, validator := shape.payload }]
      return .mixed

/-- The types of some fields of a kind, by the names of the fields. Every field is resolved
once, however often its type is used. -/
def typeTable (config : Config) (kind : String) :
    List (String × FieldSpec) → Build (SortedMap TypeExpr)
  | [] => return ∅
  | (field, spec) :: rest => do
      let type ← spec.settle config kind field
      let types ← typeTable config kind rest
      return types.insert field type

namespace KindDefinition

/-- The fields of the declaration, with their types from a table; the reserved field is left
out. -/
def resolvedFields (definition : KindDefinition) (config : Config)
    (types : SortedMap TypeExpr) : List ResolvedField :=
  (definition.orderedFields.filter fun entry => entry.1 ≠ config.reservedField).map
    fun (field, spec) =>
      let type := (types.get? field).getD .mixed
      { name := field
        type
        rendered := type.render config.nodeSuffix
        optional := spec.optional }

/-- The name of the parameter for a field: keywords are set apart by an underscore. -/
def parameterName (config : Config) (field : String) : String :=
  if config.isKeyword field then "_" ++ field else field

/-- The parameter for a field. -/
def parameter (spec : FieldSpec) (config : Config) (field : String) (type : TypeExpr) :
    Parameter where
  field
  name := parameterName config field
  type
  rendered := type.render config.nodeSuffix
  optional := spec.optional || spec.hasDefault

/-- The parameters of the builder, in the order of its arguments, with their types from a
table. -/
def parameters (definition : KindDefinition) (config : Config) (types : SortedMap TypeExpr) :
    List Parameter :=
  definition.builder.filterMap fun field =>
    (definition.fields.get? field).map fun spec =>
      parameter spec config field ((types.get? field).getD .mixed)

/-- The declared aliases and the universal one, each of them once. -/
def allAliases (definition : KindDefinition) (config : Config) : List String :=
  (definition.aliases ++ [config.universalAlias]).eraseDups

/-- A kind with everything resolved. The name is checked first, then the fields of
the builder; then the types are found, and the aliases are checked last. -/
def build (definition : KindDefinition) (config : Config) (name : String) : Build Kind := do
  Build.requireAll isIdentifier .invalidIdentifier [name]
  Build.requireAll definition.fields.contains (.missingField name) definition.builder
  let types ← typeTable config name definition.fields.entries
  Build.requireAll isIdentifier .invalidIdentifier (definition.allAliases config)
  return {
    name
    fields := definition.resolvedFields config types
    builder := definition.parameters config types
    aliases := definition.allAliases config }

end KindDefinition

/-- Build some kinds one after the other. -/
def buildKinds (config : Config) : List (String × KindDefinition) → Build (List Kind)
  | [] => return []
  | (name, definition) :: rest => do
      let kind ← definition.build config name
      let kinds ← buildKinds config rest
      return kind :: kinds

/-- The groups with a kind as a member of one more of them. -/
def enlist (name : String) (groups : SortedMap (List String)) (group : String) :
    SortedMap (List String) :=
  groups.insert group (insertName ((groups.get? group).getD []) name)

/-- The alias groups of some kinds: kind after kind is put into the groups that it lists. -/
def aliasGroups (kinds : List Kind) : SortedMap (List String) :=
  kinds.foldl (fun groups kind => kind.aliases.foldl (enlist kind.name) groups) ∅

namespace Registry

/-- The model of a registry. -/
def build (registry : Registry) (config : Config) : Build Model := do
  let kinds ← buildKinds config registry.sorted
  return { kinds, groups := aliasGroups kinds }

end Registry

end NodeDecl
