import NodeDecl.Disk.Tree
import NodeDecl.Host

/-!
# Sessions

A machine as a value: a directory tree with a current directory, and everything
that has been reported and printed. Commands that run on a session change it as they
would change a real machine.
-/

namespace NodeDecl

/-- A directory tree, where a command runs in it, and what the command has said so far. -/
structure Session where
  tree : FileTree := .empty
  /-- The place of the current directory, which no command changes. -/
  directory : List String := []
  log : List LogEntry := []
  output : List String := []
  aside : List String := []

namespace Session

/-- Ask the tree for something, from the current directory. -/
def inspect {α : Type} (question : FileTree → List String → α) : StateM Session α := do
  let session ← get
  return question session.tree session.directory

/-- Change the tree, unless the change is refused. -/
def change (request : FileTree → Except Fault FileTree) : StateM Session (Except Fault Unit) := do
  let session ← get
  match request session.tree with
  | .ok tree =>
      set { session with tree }
      return .ok ()
  | .error fault => return .error fault

/-- Change the tree from the current directory, unless the change is refused. -/
def changeHere (request : FileTree → List String → Except Fault FileTree) :
    StateM Session (Except Fault Unit) := do
  let session ← get
  change fun tree => request tree session.directory

/-- Make a temporary file in the tree, unless that is refused. -/
def makeTemporary (directory : Path) : StateM Session (Except Fault Path) := do
  let session ← get
  match session.tree.makeTemporary directory session.directory with
  | .ok (temporary, tree) =>
      set { session with tree }
      return .ok temporary
  | .error fault => return .error fault

end Session

instance : Host (StateM Session) where
  readText path := Session.inspect (·.readText path ·)
  contains path := Session.inspect (·.contains path ·)
  isDirectory path := Session.inspect (·.isDirectory path ·)
  entryNames path := Session.inspect (·.entryNames path ·)
  makeDirectory path := Session.changeHere (·.makeDirectory path ·)
  makeTemporary := Session.makeTemporary
  fill path text := Session.changeHere (·.writeFile path text.toUTF8 ·)
  moveFile source path := Session.changeHere (·.moveFile source path ·)
  discard path := (fun _ => ()) <$> Session.changeHere (·.remove path ·)
  writeFile path text := Session.changeHere (·.writeFile path text.toUTF8 ·)
  log entry := modify fun session => { session with log := session.log ++ [entry] }
  print line := modify fun session => { session with output := session.output ++ [line] }
  printAside line := modify fun session => { session with aside := session.aside ++ [line] }

end NodeDecl
