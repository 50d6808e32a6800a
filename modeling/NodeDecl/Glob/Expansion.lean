import NodeDecl.Glob.Pattern
import NodeDecl.Host

/-!
# Glob expansion

The paths that a glob stands for, found by walking from the current directory.
Components without wildcards are looked up, and only the others make the walk list
a directory. Files and directories whose names begin with a dot are not special.
-/

namespace NodeDecl.Glob

/-- Why a glob has no expansion. -/
inductive GlobFailure where
  | invalid (error : PatternError)
  | unreadable (path : Path) (fault : Fault)
  | noMatch (text : String)
deriving DecidableEq, Repr

namespace GlobFailure

/-- The words for a failure. -/
def text : GlobFailure → String
  | .invalid error => error.text
  | .unreadable path fault =>
      "attempting to read `" ++ path.text ++ "` resulted in an error: " ++ fault.text
  | .noMatch text => "glob pattern matched no files: " ++ text

end GlobFailure

/-- A glob as a search: where it starts, and a pattern for each component of a path
from there on. -/
structure Search where
  start : Path
  components : List Pattern
  /-- Whether only directories count, because a slash stands at the end. -/
  directoriesOnly : Bool
deriving DecidableEq, Repr

namespace Search

/-- The segments of a text, without the empty one behind a slash at the end. -/
def segments (text : List Char) : List (List Char) :=
  match (splitSlash text).reverse with
  | [] :: others => others.reverse
  | all => all.reverse

/-- The search for a text. The text is checked as a whole before its components. -/
def parse (text : String) : Except PatternError Search := do
  let chars := text.toList
  discard (Pattern.parse chars)
  let absolute := chars.head? = some '/'
  let components ← (segments (if absolute then chars.drop 1 else chars)).mapM Pattern.parse
  return {
    start := if absolute then ⟨"/"⟩ else .current
    components
    directoriesOnly := chars.getLast? = some '/' }

variable {m : Type → Type} [Monad m] [Host m]

/-- A path below another one; the current directory is not named in front. -/
def below (path : Path) (name : String) : Path :=
  if path.components = [.current] then ⟨name⟩ else path.join ⟨name⟩

/-- A complete match, unless it has to be a directory and is not. -/
def finish (directoriesOnly : Bool) (path : Path) : ExceptT GlobFailure m (List Path) := do
  if directoriesOnly then
    if ← Host.isDirectory path then return [path] else return []
  else return [path]

/-- The names of the directory itself and of the one above it, as far as a pattern
with a dot at its front stands for them. -/
def dottedNames (pattern : Pattern) : List String :=
  if pattern.tokens.head? = some (.char '.') then ["..", "."].filter pattern.accepts else []

/-- The patterns from the last of some recursive ones on. -/
def collapse : List Pattern → List Pattern
  | first :: second :: rest =>
      if first.isRecursive && second.isRecursive then collapse (second :: rest)
      else first :: second :: rest
  | patterns => patterns

/-- The matches of patterns in a directory. Each step of the walk leaves a pattern
behind or enters a directory, and `steps` bounds their number. -/
def walk (directoriesOnly : Bool) :
    Nat → List Pattern → Path → ExceptT GlobFailure m (List Path)
  | 0, _, _ => return []
  | _ + 1, [], path => finish directoriesOnly path
  | steps + 1, pattern :: rest, path => do
      match pattern.literal? with
      | some name =>
          let next := below path name
          let reached ←
            if name = "." ∨ name = ".." then Host.isDirectory path else Host.contains next
          if reached then walk directoriesOnly steps rest next else return []
      | none =>
          if ← Host.isDirectory path then
            let dotted ← (dottedNames pattern).mapM fun name =>
              walk directoriesOnly steps rest (path.join ⟨name⟩)
            match ← Host.entryNames path with
            | .error fault => throw (.unreadable path fault)
            | .ok names =>
                let matched ← names.mapM fun name => do
                  let child := below path name
                  let patterns := collapse (pattern :: rest)
                  let tail := patterns.tail
                  let inner ←
                    if pattern.isRecursive then
                      if ← Host.isDirectory child then walk directoriesOnly steps patterns child
                      else pure []
                    else pure []
                  let here ←
                    if pattern.isRecursive then
                      match tail with
                      | [] => if ← Host.isDirectory child then pure [child] else pure []
                      | next :: others =>
                          if next.accepts name then walk directoriesOnly steps others child
                          else pure []
                    else if pattern.accepts name then walk directoriesOnly steps rest child
                    else pure []
                  return here ++ inner
                return dotted.flatten ++ matched.flatten
          else return []

/-- No path leads through more components than this. -/
def deepestPath : Nat := 4096

/-- The paths that a search finds, in the order of paths. -/
def expand (search : Search) : ExceptT GlobFailure m (List Path) := do
  let found ← walk search.directoriesOnly (deepestPath + search.components.length)
    search.components search.start
  return found.mergeSort Path.le

end Search

/-- Characters that make a text a glob. -/
def isGlobChar (c : Char) : Bool :=
  c = '*' || c = '?' || c = '[' || c = '\x7b'

/-- The paths that a text stands for: the text itself, or if it is a glob all paths
that it matches, of which there has to be one. -/
def expandText {m : Type → Type} [Monad m] [Host m] (text : String) :
    ExceptT GlobFailure m (List Path) := do
  if text.toList.any isGlobChar then
    match Search.parse text with
    | .error error => throw (.invalid error)
    | .ok search =>
        let paths ← search.expand
        if paths.isEmpty then throw (.noMatch text) else return paths
  else return [⟨text⟩]

/-- The paths that some texts stand for, one text after the other. -/
def expandAll {m : Type → Type} [Monad m] [Host m] :
    List String → ExceptT GlobFailure m (List Path)
  | [] => return []
  | text :: rest => do
      let paths ← expandText text
      let others ← expandAll rest
      return paths ++ others

end NodeDecl.Glob
