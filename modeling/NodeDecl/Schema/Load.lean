import NodeDecl.Failure
import NodeDecl.Schema.Document

/-!
# Loading schemas

A registry may be spread over several files. Loading reads them in order and puts
their kinds together; a kind may be defined in one file only.
-/

namespace NodeDecl

/-- The kinds of the files read so far, and the file of each kind. -/
structure Merge where
  kinds : OrderedMap KindDefinition := ∅
  origins : OrderedMap Path := ∅

namespace Merge

/-- Add the kinds of a file, up to the first one that another file defines. -/
def add (path : Path) (merge : Merge) :
    List (String × KindDefinition) → Except Failure Merge
  | [] => .ok merge
  | (name, definition) :: rest =>
      match merge.origins.get? name with
      | some first => .error (.duplicateKind name first path)
      | none =>
          add path
            { kinds := merge.kinds.insert name definition
              origins := merge.origins.insert name path } rest

end Merge

namespace Registry

/-- The registry of a schema document. -/
def parse (text origin : String) : Except Failure Registry :=
  (Json.parse reader text).mapError (.schema origin)

variable {m : Type → Type} [Monad m] [Host m]

/-- Read some files and add their kinds. -/
def loadInto (merge : Merge) : List Path → Action m Merge
  | [] => return merge
  | path :: rest => do
      let text ← Action.request path (Host.readText path)
      let part ← Action.ofExcept (parse text path.text)
      let merged ← Action.ofExcept (merge.add path part.kinds.entries)
      Host.log (.loadedSchema path)
      loadInto merged rest

/-- The registry that some files define together. -/
def load (paths : List Path) : Action m Registry := do
  let merge ← loadInto {} paths
  return { kinds := merge.kinds }

end Registry

end NodeDecl
