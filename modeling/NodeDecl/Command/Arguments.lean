import NodeDecl.Disk.Path

/-!
# Command lines

A command line names a command and gives its settings. Settings have long names
after two dashes and may have short names after one; a value follows in the next
argument or is attached. The values of a setting are judged when the next setting
begins or the arguments end, while an unknown argument is refused at once.
-/

namespace NodeDecl.Command

/-- The commands. -/
inductive Verb where
  | generate
  | model
deriving DecidableEq, Repr

/-- The settings of the commands. -/
inductive Setting where
  | input
  | config
  | outDir
  | out
  | check
  | noOp
  | help
deriving DecidableEq, Repr

/-- Why a command line is refused, or what it asks for instead of a command. -/
inductive Usage where
  | help
  | missingCommand
  | missingInput
  | unknownCommand
  | unknownArgument
  | invalidValue
  | tooManyValues
  | conflict
deriving DecidableEq, Repr

/-- What a command line asks for. -/
structure Invocation where
  verb : Verb
  inputs : List String
  config : Option Path
  /-- The directory that the generated files go into. -/
  outDir : Path
  /-- The file that the model goes into. -/
  out : Option Path
  check : Bool
  noOp : Bool
deriving DecidableEq, Repr

namespace Verb

/-- The command of a name. -/
def ofName? (name : String) : Option Verb :=
  if name = "generate" then some .generate
  else if name = "model" then some .model
  else none

end Verb

namespace Setting

/-- The setting of a command with a long name. -/
def ofLong? (verb : Verb) (name : String) : Option Setting :=
  if name = "input" then some .input
  else if name = "config" then some .config
  else if name = "no-op" then some .noOp
  else if name = "help" then some .help
  else
    match verb with
    | .generate =>
        if name = "out-dir" then some .outDir
        else if name = "check" then some .check
        else none
    | .model => if name = "out" then some .out else none

/-- The setting of a command with a short name. -/
def ofShort? (verb : Verb) (name : Char) : Option Setting :=
  if name = 'i' then some .input
  else if name = 'c' then some .config
  else if name = 'h' then some .help
  else if name = 'o' ∧ verb = .model then some .out
  else none

/-- Whether a setting has values. -/
def takesValue : Setting → Bool
  | .input | .config | .outDir | .out => true
  | .check | .noOp | .help => false

end Setting

/-- Settings that have been given so far. The pending one waits for its values to be
judged, and takes further arguments while it is open. -/
structure Progress where
  inputs : List String := []
  config : Option Path := none
  outDir : Option Path := none
  out : Option Path := none
  check : Bool := false
  noOp : Bool := false
  pending : Option (Setting × List String) := none
  isOpen : Bool := false
deriving DecidableEq, Repr

namespace Progress

/-- A path given once. -/
def path (given : Option Path) (value : String) : Except Usage (Option Path) :=
  if given.isSome then .error .conflict
  else if value.isEmpty then .error .invalidValue
  else .ok (some ⟨value⟩)

/-- Take up a setting with its values. Inputs may be given any number of times,
everything else once. -/
def assign (progress : Progress) : Setting → List String → Except Usage Progress
  | .help, _ => .error .help
  | .check, _ =>
      if progress.check then .error .conflict else .ok { progress with check := true }
  | .noOp, _ =>
      if progress.noOp then .error .conflict else .ok { progress with noOp := true }
  | _, [] => .error .invalidValue
  | .input, values => .ok { progress with inputs := progress.inputs ++ values }
  | .config, value :: _ => do
      return { progress with config := ← path progress.config value }
  | .outDir, value :: _ => do
      return { progress with outDir := ← path progress.outDir value }
  | .out, value :: _ => do
      return { progress with out := ← path progress.out value }

/-- Take up the setting that is pending. -/
def settle (progress : Progress) : Except Usage Progress :=
  let settled := { progress with pending := none, isOpen := false }
  match progress.pending with
  | none => .ok settled
  | some (setting, values) => settled.assign setting values

/-- Begin a setting. Without an attached value a setting that needs one waits. -/
def start (progress : Progress) (setting : Setting) (attached : Option String) :
    Except Usage Progress :=
  match setting.takesValue, attached with
  | false, some _ => .error .tooManyValues
  | false, none => do (← progress.settle).assign setting []
  | true, some value => do (← progress.settle).assign setting [value]
  | true, none => do
      return { ← progress.settle with pending := some (setting, []), isOpen := true }

/-- Take an argument as a value of the open setting. Only inputs take more than one. -/
def value (progress : Progress) (argument : String) : Except Usage Progress :=
  match progress.isOpen, progress.pending with
  | true, some (setting, values) =>
      .ok { progress with
        pending := some (setting, values ++ [argument])
        isOpen := setting = .input }
  | _, _ => .error .unknownArgument

/-- Split a long name from the value behind an equals sign. -/
def splitLong (text : List Char) : String × Option String :=
  let name := String.ofList (text.takeWhile (· ≠ '='))
  match text.dropWhile (· ≠ '=') with
  | [] => (name, none)
  | _ :: value => (name, some (String.ofList value))

/-- The value attached to a short name, with or without an equals sign. -/
def shortValue? : List Char → Option String
  | [] => none
  | '=' :: value => some (String.ofList value)
  | value => some (String.ofList value)

/-- Take one argument. -/
def take (progress : Progress) (verb : Verb) (argument : String) : Except Usage Progress :=
  match argument.toList with
  | '-' :: '-' :: text =>
      let (name, attached) := splitLong text
      match Setting.ofLong? verb name with
      | some setting => progress.start setting attached
      | none => .error .unknownArgument
  | '-' :: name :: text =>
      match Setting.ofShort? verb name with
      | some setting =>
          if setting.takesValue then progress.start setting (shortValue? text)
          else progress.start setting none
      | none => .error .unknownArgument
  | _ => progress.value argument

/-- What the settings ask for, once all arguments have been taken. -/
def finish (progress : Progress) (verb : Verb) : Except Usage Invocation := do
  let settled ← progress.settle
  if settled.inputs.isEmpty then throw .missingInput
  return {
    verb
    inputs := settled.inputs
    config := settled.config
    outDir := settled.outDir.getD .current
    out := settled.out
    check := settled.check
    noOp := settled.noOp }

/-- Take the arguments of a command. Nothing may follow two dashes on their own. -/
def takeAll (verb : Verb) (progress : Progress) : List String → Except Usage Invocation
  | [] => progress.finish verb
  | ["--"] => progress.finish verb
  | "--" :: _ => .error .unknownArgument
  | argument :: rest => do takeAll verb (← progress.take verb argument) rest

end Progress

/-- The name of the command that shows help. -/
def helpName : String :=
  "help"

/-- Whether help can be shown on what some arguments name: nothing, or one command. -/
def namesTopic : List String → Bool
  | [] => true
  | [name] => name = helpName || (Verb.ofName? name).isSome
  | _ => false

/-- Arguments before any command, behind two dashes on their own: no command can
follow there. -/
def strayArgument (name : String) : Usage :=
  if name = helpName || (Verb.ofName? name).isSome then .unknownArgument else .unknownCommand

/-- What a command line asks for. -/
def parse : List String → Except Usage Invocation
  | [] => .error .missingCommand
  | ["--"] => .error .missingCommand
  | "--" :: name :: _ => .error (strayArgument name)
  | first :: rest =>
      match Verb.ofName? first with
      | some verb => Progress.takeAll verb {} rest
      | none =>
          if first = helpName then
            .error (if namesTopic rest then .help else .unknownCommand)
          else
            match first.toList with
            | '-' :: '-' :: text =>
                let (name, attached) := Progress.splitLong text
                if name = helpName then
                  .error (if attached.isSome then .tooManyValues else .help)
                else .error .unknownArgument
            | ['-'] => .error .unknownCommand
            | '-' :: 'h' :: _ => .error .help
            | '-' :: _ => .error .unknownArgument
            | _ => .error .unknownCommand

end NodeDecl.Command
