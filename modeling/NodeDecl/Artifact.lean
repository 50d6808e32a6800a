import NodeDecl.Artifact.Stub
import NodeDecl.Artifact.Wrapper
import NodeDecl.Failure

/-!
# Artifacts

The three generated texts, and the files that hold them. All texts are made before
the first file is written. A file is always put in place as a whole, and the files
are written in one order: catalogue, stub, wrapper.
-/

namespace NodeDecl

/-- The generated texts. -/
structure Artifacts where
  catalogue : String
  stub : String
  wrapper : String
deriving DecidableEq, Repr

/-- A model and what is generated from it. -/
structure Generation where
  model : Model
  artifacts : Artifacts

namespace Artifacts

/-- The texts for a model. -/
def ofModel (model : Model) (config : Config) : Artifacts where
  catalogue := Catalogue.render model config
  stub := Stub.render model config
  wrapper := Wrapper.render model config

/-- The files and their texts, in the order in which they are written. -/
def targets (artifacts : Artifacts) (outDir : Path) (config : Config) : List (Path × String) :=
  [(outDir.join ⟨config.outputs.catalogue⟩, artifacts.catalogue),
   (outDir.join ⟨config.outputs.stub⟩, artifacts.stub),
   (outDir.join ⟨config.outputs.wrapper⟩, artifacts.wrapper)]

variable {m : Type → Type} [Monad m] [Host m]

/-- Do something with a temporary file. If it fails, take the file away. -/
def orDiscard (temporary : Path) (action : Action m Unit) : Action m Unit :=
  ExceptT.mk do
    match ← action.run with
    | .ok () => return .ok ()
    | .error failure =>
        Host.discard temporary
        return .error failure

/-- Make the directory that a file stands in, and a temporary file in it. -/
def stage (path : Path) : Action m Path := do
  Action.request path.directory (Host.makeDirectories path.directory)
  Action.request path.directory (Host.makeTemporary path.directory)

/-- Fill a temporary file with a text and move it in place. -/
def settle (temporary path : Path) (text : String) : Action m Unit :=
  orDiscard temporary do
    Action.request temporary (Host.fill temporary text)
    Action.request path (Host.moveFile temporary path)

/-- Put a file in place, after making the directory that it stands in. The text goes to
a temporary file in the same directory, which is then moved in place as a whole. -/
def place (path : Path) (text : String) : Action m Unit := do
  let temporary ← stage path
  settle temporary path text

/-- Put some files in place, one after the other, and give their paths. -/
def placeAll : List (Path × String) → Action m (List Path)
  | [] => return []
  | (path, text) :: rest => do
      place path text
      Host.log (.wrote path)
      let others ← placeAll rest
      return path :: others

/-- Write the generated files and give their paths. -/
def write (artifacts : Artifacts) (outDir : Path) (config : Config) : Action m (List Path) :=
  placeAll (artifacts.targets outDir config)

/-- Whether a file holds a text. A file that is not there does not. -/
def isCurrent (path : Path) (text : String) : Action m Bool :=
  ExceptT.mk do
    match ← Host.readText path with
    | .ok current => return .ok (current = text)
    | .error .noSuchEntry => return .ok false
    | .error fault => return .error (.io path fault)

/-- The files that do not hold their texts. -/
def staleTargets : List (Path × String) → Action m (List Path)
  | [] => return []
  | (path, text) :: rest => do
      let current ← isCurrent path text
      let others ← staleTargets rest
      return if current then others else path :: others

/-- Refuse files on disk that differ from the generated ones. -/
def check (artifacts : Artifacts) (outDir : Path) (config : Config) : Action m Unit := do
  match ← staleTargets (artifacts.targets outDir config) with
  | [] => return ()
  | stale => throw (.stale stale)

end Artifacts

namespace Registry

/-- The model of a registry and everything that is generated from it. -/
def generate (registry : Registry) (config : Config) : Build Generation := do
  let model ← registry.build config
  return { model, artifacts := .ofModel model config }

end Registry

end NodeDecl
