import NodeDecl.Artifact
import NodeDecl.Command.Arguments
import NodeDecl.Config.Load
import NodeDecl.Schema.Load
import NodeDecl.Text.Quoted

/-!
# Running a command

What the two commands do. `generate` writes the artifacts, or checks those on
disk; `model` prints the resolved model, or writes it to a file. Either can be
told to show its settings and do nothing.
-/

namespace NodeDecl.Command

/-- Why a command fails: a failure of the run, with what the command was about
where that is not plain from the failure itself. -/
inductive CommandFailure where
  | run (failure : Failure)
  /-- The input files could not be told. -/
  | inputs (failure : Glob.GlobFailure)
  | cannotCreate (path : Path) (fault : Fault)
  | cannotWrite (path : Path) (fault : Fault)
deriving DecidableEq, Repr

namespace CommandFailure

/-- The words for a failure with all its causes. A fault of the file system is both
part of the failure and its cause. -/
def message : CommandFailure → String
  | .run (.io path fault) => (Failure.io path fault).message ++ ": " ++ fault.text
  | .run failure => failure.message
  | .inputs failure =>
      "failed to resolve schema file paths: " ++ (Failure.glob failure).message
  | .cannotCreate path fault => "failed to create " ++ path.text ++ ": " ++ fault.text
  | .cannotWrite path fault => "failed to write " ++ path.text ++ ": " ++ fault.text

end CommandFailure

/-! ## Showing the settings -/

/-- Lines with the depth at which each is set in. -/
abbrev Outline := List (Nat × String)

namespace Outline

/-- The same lines one level deeper. -/
def nest (outline : Outline) : Outline :=
  outline.map fun (depth, text) => (depth + 1, text)

/-- Some content between an opening and a closing line. -/
def enclose (opening : String) (content : Outline) (closing : String) : Outline :=
  (0, opening) :: content.nest ++ [(0, closing)]

/-- The text of an outline, with four spaces for each level. -/
def text (outline : Outline) : String :=
  "\n".intercalate (outline.map fun (depth, line) =>
    String.ofList (List.replicate (4 * depth) ' ') ++ line)

end Outline

namespace Invocation

/-- The line of a truth value. -/
def flagLine (name : String) (value : Bool) : Outline :=
  [(0, name ++ ": " ++ (if value then "true" else "false") ++ ",")]

/-- The lines of a path that need not be given. -/
def pathLines (name : String) : Option Path → Outline
  | none => [(0, name ++ ": None,")]
  | some path => .enclose (name ++ ": Some(") [(0, Text.quotedName path.text ++ ",")] "),"

/-- The lines of the input settings. -/
def inputLines (invocation : Invocation) : Outline :=
  .enclose "input_settings: InputSettings \x7b"
    (.enclose "input: [" (invocation.inputs.map fun input => (0, Text.quoted input ++ ",")) "]," ++
      pathLines "config" invocation.config) "\x7d,"

/-- The settings of a command line, one on each line. -/
def describe (invocation : Invocation) : String :=
  let (command, settings, lines) :=
    match invocation.verb with
    | .generate =>
        ("Generate", "GenerateOut",
          [(0, "out_dir: " ++ Text.quotedName invocation.outDir.text ++ ",")] ++
          flagLine "check" invocation.check)
    | .model => ("Model", "ModelOut", pathLines "out" invocation.out)
  Outline.text <|
    .enclose "CommandLineInterface \x7b"
      (.enclose ("cmd: " ++ command ++ "(")
        (.enclose (settings ++ " \x7b")
          (invocation.inputLines ++ lines ++ flagLine "no_op" invocation.noOp) "\x7d,") "),") "\x7d"

end Invocation

/-! ## The commands -/

variable {m : Type → Type} [Monad m] [Host m] {α : Type}

/-- A part of a run as a part of a command. -/
def perform (action : Action m α) : ExceptT CommandFailure m α :=
  action.adapt .run

/-- A service of the machine as a part of a command, with words for its failure. -/
def request (failure : Fault → CommandFailure) (service : m (Except Fault α)) :
    ExceptT CommandFailure m α :=
  ExceptT.adapt failure (ExceptT.mk service)

/-- The registry and the configuration that a command works on. -/
def load (invocation : Invocation) : ExceptT CommandFailure m (Registry × Config) := do
  let paths ← (Glob.expandAll invocation.inputs).adapt .inputs
  let registry ← perform (Registry.load paths)
  let config ← perform (Config.load invocation.config)
  return (registry, config)

/-- Report some events. -/
def report : List LogEntry → ExceptT CommandFailure m Unit
  | [] => return ()
  | entry :: rest => do
      Host.log entry
      report rest

/-- The outcome of a build, after its warnings have been reported. -/
def settle (build : Build α) : ExceptT CommandFailure m α := do
  report (build.warnings.map .unrecognisedValidator)
  match build.outcome with
  | .ok value => return value
  | .error error => throw (.run (.build error))

/-- Report the size of a model. -/
def reportModel (model : Model) : ExceptT CommandFailure m Unit :=
  Host.log (.indexed model.kinds.length model.groups.size)

/-- Print some lines. -/
def printAll : List String → ExceptT CommandFailure m Unit
  | [] => return ()
  | line :: rest => do
      Host.print line
      printAll rest

/-- Write the artifacts, or check the ones on disk. -/
def generate (invocation : Invocation) : ExceptT CommandFailure m Unit := do
  let (registry, config) ← load invocation
  let generation ← settle (registry.generate config)
  reportModel generation.model
  if invocation.check then
    perform (generation.artifacts.check invocation.outDir config)
    Host.print ("✓ " ++ config.engineClass ++ " artifacts up to date")
  else
    let written ← perform (generation.artifacts.write invocation.outDir config)
    printAll (written.map fun path => "  ✓ " ++ path.text)
    Host.print ("✅ " ++ generation.model.kinds.length.repr ++ " node kinds, " ++
      generation.model.groups.size.repr ++ " alias groups")

/-- Write a text to a file, after making the directory that the file stands in. -/
def writeOut (path : Path) (text : String) : ExceptT CommandFailure m Unit := do
  match path.parent? with
  | some parent => request (.cannotCreate parent) (Host.makeDirectories parent)
  | none => pure ()
  request (.cannotWrite path) (Host.writeFile path text)

/-- Print the resolved model, or write it to a file. -/
def model (invocation : Invocation) : ExceptT CommandFailure m Unit := do
  let (registry, config) ← load invocation
  let model ← settle (registry.build config)
  reportModel model
  let text := model.toJson.toPrettyText
  match invocation.out with
  | some path => writeOut path text
  | none => Host.print text

/-- Do what a command line asks for. -/
def run (invocation : Invocation) : ExceptT CommandFailure m Unit :=
  if invocation.noOp then Host.printAside invocation.describe
  else
    match invocation.verb with
    | .generate => generate invocation
    | .model => model invocation

end NodeDecl.Command
