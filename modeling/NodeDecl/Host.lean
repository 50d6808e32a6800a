import NodeDecl.Disk.Fault
import NodeDecl.Host.Log

/-!
# The machine that a command runs on

Commands ask for the few services of `Host` and for nothing else, so the same
command runs on a real file system and on a directory tree that is a value. On top
of the services stands the making of directories with all that lead to them.
-/

namespace NodeDecl

/-- The services that commands ask for. -/
class Host (m : Type → Type) where
  /-- The text of a file. -/
  readText : Path → m (Except Fault String)
  /-- Whether there is something at a path. -/
  contains : Path → m Bool
  /-- Whether there is a directory at a path. -/
  isDirectory : Path → m Bool
  /-- The names in a directory. -/
  entryNames : Path → m (Except Fault (List String))
  /-- Make one directory. -/
  makeDirectory : Path → m (Except Fault Unit)
  /-- Make an empty file of a new name in a directory, and give its path. -/
  makeTemporary : Path → m (Except Fault Path)
  /-- Fill a file that has just been made. -/
  fill : Path → String → m (Except Fault Unit)
  /-- Move a file in place of whatever file is at another path. -/
  moveFile : Path → Path → m (Except Fault Unit)
  /-- Take a temporary file away. -/
  discard : Path → m Unit
  /-- Open a file, empty it and fill it. -/
  writeFile : Path → String → m (Except Fault Unit)
  /-- Report an event. -/
  log : LogEntry → m Unit
  /-- Print a line of output. -/
  print : String → m Unit
  /-- Print a line beside the output. -/
  printAside : String → m Unit

/-- A computation that may fail has the services of the machine it runs on. -/
instance {m : Type → Type} [Monad m] [Host m] {ε : Type} : Host (ExceptT ε m) where
  readText path := ExceptT.lift (Host.readText path)
  contains path := ExceptT.lift (Host.contains path)
  isDirectory path := ExceptT.lift (Host.isDirectory path)
  entryNames path := ExceptT.lift (Host.entryNames path)
  makeDirectory path := ExceptT.lift (Host.makeDirectory path)
  makeTemporary directory := ExceptT.lift (Host.makeTemporary directory)
  fill path text := ExceptT.lift (Host.fill path text)
  moveFile source path := ExceptT.lift (Host.moveFile source path)
  discard path := ExceptT.lift (Host.discard path)
  writeFile path text := ExceptT.lift (Host.writeFile path text)
  log entry := ExceptT.lift (Host.log entry)
  print line := ExceptT.lift (Host.print line)
  printAside line := ExceptT.lift (Host.printAside line)

namespace Path

/-- The path and the directories above it, up to a number of them. The root and the
starting point, which always exist, are left out. -/
def ancestorsUpTo : Nat → Path → List Path
  | 0, _ => []
  | count + 1, path =>
      match path.parent? with
      | none => []
      | some parent => path :: ancestorsUpTo count parent

/-- The path and the directories above it. Each is shorter than the one before. -/
def ancestors (path : Path) : List Path :=
  path.ancestorsUpTo (path.text.length + 1)

end Path

namespace Host

variable {m : Type → Type} [Monad m] [Host m]

/-- Make a directory, unless there is one. -/
def ensureDirectory (path : Path) : m (Except Fault Unit) := do
  match ← makeDirectory path with
  | .ok () => return .ok ()
  | .error fault =>
      if fault = .exists then
        if ← isDirectory path then return .ok () else return .error .exists
      else return .error fault

/-- Make a directory, and before that the directories above it that are missing. -/
def ensureAll : List Path → m (Except Fault Unit)
  | [] => return .ok ()
  | path :: above => do
      match ← ensureDirectory path with
      | .error .noSuchEntry =>
          match ← ensureAll above with
          | .ok () => ensureDirectory path
          | .error fault => return .error fault
      | outcome => return outcome

/-- Make a directory with all directories that lead to it. -/
def makeDirectories (path : Path) : m (Except Fault Unit) :=
  ensureAll path.ancestors

end Host

end NodeDecl
