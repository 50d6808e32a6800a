import NodeDecl.Command.Run

/-!
# The command line program

The services of `Host` on the real file system, and the program that runs a
command with them. Everything else is decided by the library.
-/

namespace NodeDecl

namespace Machine

/-- The number that the system gives for something that is no directory. -/
def notDirectoryCode : UInt32 := 20

/-- The number that the system gives for a name that is too long. -/
def nameTooLongCode : UInt32 := 36

/-- Whether a number of the system is the expected one. Some services negate it. -/
def hasCode (expected code : UInt32) : Bool :=
  code = expected || 0 - code = expected

/-- The fault that an error of the system stands for. -/
def fault : IO.Error → Fault
  | .noFileOrDirectory .. => .noSuchEntry
  | .alreadyExists .. => .exists
  | .resourceBusy .. => .busy
  | .inappropriateType _ code _ =>
      if hasCode notDirectoryCode code then .notDirectory else .isDirectory
  | .invalidArgument _ code words =>
      if hasCode nameTooLongCode code then .nameTooLong else .other words
  | error => .other error.toString

/-- Do something and catch the error that it may throw. -/
def attempt {α : Type} (action : IO α) : IO (Except Fault α) := do
  try
    return .ok (← action)
  catch error =>
    return .error (fault error)

/-- Whether an action succeeds. -/
def succeeds {α : Type} (action : IO α) : IO Bool := do
  match ← attempt action with
  | .ok _ => return true
  | .error _ => return false

/-- The text of a file. -/
def readText (path : Path) : IO (Except Fault String) := do
  match ← attempt (IO.FS.readBinFile path.text) with
  | .error fault => return .error fault
  | .ok contents =>
      match String.fromUTF8? contents with
      | some text => return .ok text
      | none => return .error .notText

/-- The names in a directory, in increasing order. -/
def entryNames (path : Path) : IO (Except Fault (List String)) :=
  attempt do
    let directory ← IO.FS.realPath path.text
    let entries ← directory.readDir
    return sortedNames (entries.toList.map (·.fileName))

/-- Make an empty file of a new name in a directory. The name comes from the clock. -/
def makeTemporary (directory : Path) : IO (Except Fault Path) := do
  let stamp ← IO.monoNanosNow
  let temporary := directory.join ⟨".nodedecl-" ++ stamp.repr⟩
  attempt do
    let _ ← IO.FS.Handle.mk temporary.text .writeNew
    return temporary

end Machine

instance : Host IO where
  readText := Machine.readText
  contains path := Machine.succeeds (IO.FS.Handle.mk path.text .read)
  isDirectory path := Machine.succeeds (IO.FS.Handle.mk (path.join ⟨"."⟩).text .read)
  entryNames := Machine.entryNames
  makeDirectory path := Machine.attempt (IO.FS.createDir path.text)
  makeTemporary := Machine.makeTemporary
  fill path text := Machine.attempt (IO.FS.writeFile path.text text)
  moveFile source path := Machine.attempt (IO.FS.rename source.text path.text)
  discard path := discard (Machine.attempt (IO.FS.removeFile path.text))
  writeFile path text := Machine.attempt (IO.FS.writeFile path.text text)
  log entry := do if entry.shownAt .warn then IO.eprintln entry.line
  print line := IO.println line
  printAside line := IO.eprintln line

namespace Command

/-- How the program is used. -/
def usageText : String :=
  "usage: nodedecl generate -i FILES... [-c CONFIG] [--out-dir DIR] [--check] [--no-op]\n" ++
  "       nodedecl model -i FILES... [-c CONFIG] [-o FILE] [--no-op]"

/-- The words for a refused command line. -/
def Usage.text : Usage → String
  | .help => usageText
  | .missingCommand => usageText
  | .missingInput => "error: no input files are given"
  | .unknownCommand => "error: unrecognized command"
  | .unknownArgument => "error: unexpected argument"
  | .invalidValue => "error: a value is missing or empty"
  | .tooManyValues => "error: a value is given to a setting that takes none"
  | .conflict => "error: a setting is given more than once"

/-- Run the command that some arguments name. The status is 2 for a command line
that is refused and 1 for a command that fails. -/
def execute (arguments : List String) : IO UInt32 := do
  match parse arguments with
  | .error .help =>
      IO.println usageText
      return 0
  | .error usage =>
      IO.eprintln usage.text
      return 2
  | .ok invocation =>
      match ← (run invocation : ExceptT CommandFailure IO Unit).run with
      | .ok () => return 0
      | .error failure =>
          IO.eprintln ("❌ failed: " ++ failure.message)
          return 1

end Command

end NodeDecl

/-- The program. -/
def main (arguments : List String) : IO UInt32 :=
  NodeDecl.Command.execute arguments
