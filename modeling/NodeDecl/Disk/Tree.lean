import NodeDecl.Disk.Fault
import NodeDecl.Disk.Path
import NodeDecl.SortedMap

/-!
# Directory trees

A file system as a value: files with their bytes, and directories with their
entries in increasing order of names. Requests follow a path segment by segment,
from the root or, if the path is relative, from the place `here` of the current
directory, and every segment on the way has to be a directory that exists. A request
that fails leaves the tree as it is; one that succeeds changes one entry.
-/

namespace NodeDecl

/-- A file or a directory with all that is in it. -/
inductive FileTree where
  | file (contents : ByteArray)
  | directory (entries : List (String × FileTree))
deriving Inhabited

namespace FileTree

/-- A directory without entries. -/
def empty : FileTree :=
  .directory []

/-- What stands at a place, given by the names that lead to it. -/
def find? : List String → FileTree → Option FileTree
  | [], tree => some tree
  | name :: rest, .directory entries => (entries.lookup name).bind (find? rest)
  | _ :: _, .file _ => none

/-- The tree with something put at a place. -/
def put (node : FileTree) : List String → FileTree → FileTree
  | [], _ => node
  | name :: rest, .directory entries =>
      .directory (insertSorted entries name (put node rest ((entries.lookup name).getD empty)))
  | _ :: _, .file contents => .file contents

/-- The tree without what stands at a place. -/
def erase : List String → FileTree → FileTree
  | [], tree => tree
  | [name], .directory entries => .directory (entries.filter fun entry => entry.1 ≠ name)
  | name :: next :: rest, .directory entries =>
      match entries.lookup name with
      | some inner => .directory (insertSorted entries name (erase (next :: rest) inner))
      | none => .directory entries
  | _ :: _, .file contents => .file contents

/-- The most bytes that a name may have. -/
def longestName : Nat := 255

/-- The most bytes that a path may have. -/
def longestPath : Nat := 4095

/-- Faults of a path as a text. -/
def checkPath (path : Path) : Except Fault Unit :=
  if path.text.toList.contains '\x00' then .error .nulCharacter
  else if path.text.isEmpty then .error .noSuchEntry
  else if longestPath < path.text.utf8ByteSize then .error .nameTooLong
  else .ok ()

/-- Follow segments from a place on, and give the place where they end. -/
def follow (tree : FileTree) (place : List String) : List (List Char) → Except Fault (List String)
  | [] => .ok place
  | segment :: rest =>
      match find? place tree with
      | none => .error .noSuchEntry
      | some (.file _) => .error .notDirectory
      | some (.directory entries) =>
          if Path.isIdle segment then follow tree place rest
          else if segment = ['.', '.'] then follow tree place.dropLast rest
          else
            let name := String.ofList segment
            if longestName < name.utf8ByteSize then .error .nameTooLong
            else if (entries.lookup name).isNone then .error .noSuchEntry
            else follow tree (place ++ [name]) rest

/-- The place that a path denotes, which has to exist. -/
def locate (tree : FileTree) (path : Path) (here : List String := []) :
    Except Fault (List String) := do
  checkPath path
  follow tree (path.origin here) path.segments

/-- What stands where a path leads. -/
def lookup (tree : FileTree) (path : Path) (here : List String := []) :
    Except Fault FileTree := do
  let place ← locate tree path here
  match find? place tree with
  | some node => .ok node
  | none => .error .noSuchEntry

/-- The text of a file. -/
def readText (tree : FileTree) (path : Path) (here : List String := []) :
    Except Fault String := do
  match ← tree.lookup path here with
  | .directory _ => .error .isDirectory
  | .file contents =>
      match String.fromUTF8? contents with
      | some text => .ok text
      | none => .error .notText

/-- Whether something stands where a path leads. -/
def contains (tree : FileTree) (path : Path) (here : List String := []) : Bool :=
  match tree.lookup path here with
  | .ok _ => true
  | .error _ => false

/-- Whether a path leads to a directory. -/
def isDirectory (tree : FileTree) (path : Path) (here : List String := []) : Bool :=
  match tree.lookup path here with
  | .ok (.directory _) => true
  | _ => false

/-- The names in a directory, in increasing order. -/
def entryNames (tree : FileTree) (path : Path) (here : List String := []) :
    Except Fault (List String) := do
  match ← tree.lookup path here with
  | .directory entries => .ok (entries.map (·.1))
  | .file _ => .error .notDirectory

/-- What a path says about an entry that need not exist. -/
inductive Target where
  /-- A name in a directory that exists, and whether slashes follow the name. -/
  | entry (holder : List String) (name : String) (slashed : Bool)
  /-- A directory on the way, and no name in it. -/
  | passage
deriving DecidableEq, Repr

/-- The entry that a path denotes. The directory that holds it has to exist. -/
def target (tree : FileTree) (path : Path) (here : List String := []) :
    Except Fault Target := do
  checkPath path
  let trimmed := path.segments.reverse.dropWhile (· = [])
  let slashed := path.segments.getLast? = some []
  match trimmed with
  | [] => .ok .passage
  | last :: before =>
      let holder ← follow tree (path.origin here) before.reverse
      match find? holder tree with
      | some (.directory _) =>
          if last = ['.'] ∨ last = ['.', '.'] then .ok .passage
          else if longestName < (String.ofList last).utf8ByteSize then .error .nameTooLong
          else .ok (.entry holder (String.ofList last) slashed)
      | some (.file _) => .error .notDirectory
      | none => .error .noSuchEntry

/-- The tree with a new directory. -/
def makeDirectory (tree : FileTree) (path : Path) (here : List String := []) :
    Except Fault FileTree := do
  match ← tree.target path here with
  | .passage => .error .exists
  | .entry holder name _ =>
      match find? (holder ++ [name]) tree with
      | some _ => .error .exists
      | none => .ok (put empty (holder ++ [name]) tree)

/-- The tree with a file that has just been put in place of whatever file was
there. -/
def replaceFile (tree : FileTree) (path : Path) (contents : ByteArray)
    (here : List String := []) : Except Fault FileTree := do
  match ← tree.target path here with
  | .passage => .error .busy
  | .entry _ _ true => .error .notDirectory
  | .entry holder name false =>
      match find? (holder ++ [name]) tree with
      | some (.directory _) => .error .isDirectory
      | _ => .ok (put (.file contents) (holder ++ [name]) tree)

/-- The tree with a new file, which is empty. -/
def makeFile (tree : FileTree) (path : Path) (here : List String := []) :
    Except Fault FileTree := do
  match ← tree.target path here with
  | .passage => .error .exists
  | .entry _ _ true => .error .isDirectory
  | .entry holder name false =>
      match find? (holder ++ [name]) tree with
      | some _ => .error .exists
      | none => .ok (put (.file .empty) (holder ++ [name]) tree)

/-- The tree with a file opened for writing, emptied and filled. -/
def writeFile (tree : FileTree) (path : Path) (contents : ByteArray)
    (here : List String := []) : Except Fault FileTree := do
  match ← tree.target path here with
  | .passage => .error .isDirectory
  | .entry _ _ true => .error .isDirectory
  | .entry holder name false =>
      match find? (holder ++ [name]) tree with
      | some (.directory _) => .error .isDirectory
      | _ => .ok (put (.file contents) (holder ++ [name]) tree)

/-- The tree without a file, or without a directory and all that is in it. -/
def remove (tree : FileTree) (path : Path) (here : List String := []) :
    Except Fault FileTree := do
  let place ← tree.locate path here
  .ok (erase place tree)

/-- The tree with a file moved in place of whatever file was at a path. -/
def moveFile (tree : FileTree) (source path : Path) (here : List String := []) :
    Except Fault FileTree := do
  match ← tree.lookup source here with
  | .directory _ => .error .isDirectory
  | .file contents =>
      let rest ← tree.remove source here
      rest.replaceFile path contents here

/-- The tree with a new file at the first of some paths where there is nothing yet, and
this path. Only so many of the paths are tried, from one of them on. -/
def makeFirst (tree : FileTree) (paths : Nat → Path) (here : List String) :
    Nat → Nat → Except Fault (Path × FileTree)
  | 0, _ => .error (.other "too many temporary files exist")
  | tries + 1, number =>
      match tree.makeFile (paths number) here with
      | .ok next => .ok (paths number, next)
      | .error fault =>
          if fault = .exists then makeFirst tree paths here tries (number + 1) else .error fault

/-- The path of a temporary file in a directory. -/
def temporaryPath (directory : Path) (number : Nat) : Path :=
  directory.join ⟨".tmp" ++ number.repr⟩

/-- The most names that are tried for a temporary file. -/
def temporaryTries : Nat := 65536

/-- The tree with a temporary file in a directory, and the path of the file. -/
def makeTemporary (tree : FileTree) (directory : Path) (here : List String := []) :
    Except Fault (Path × FileTree) :=
  tree.makeFirst (temporaryPath directory) here temporaryTries 0

mutual

/-- The lines of a listing for one entry: a directory with a slash and then its
entries, a file with its size. -/
def listEntry (path : String) : FileTree → List String
  | .file contents => [path ++ " " ++ contents.size.repr]
  | .directory entries => (path ++ "/") :: listEntries (path ++ "/") entries

/-- The lines of a listing for some entries of a directory. -/
def listEntries (front : String) : List (String × FileTree) → List String
  | [] => []
  | (name, node) :: rest => listEntry (front ++ name) node ++ listEntries front rest

end

/-- Everything in a directory, depth first. -/
def listing : FileTree → List String
  | .directory entries => listEntries "" entries
  | .file _ => []

end FileTree

end NodeDecl
