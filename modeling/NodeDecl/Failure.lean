import NodeDecl.Glob.Expansion
import NodeDecl.Json.Failure

/-!
# Failures of a run

Everything that makes a run fail, and the words for it.
-/

namespace NodeDecl

/-- Why a run fails. -/
inductive Failure where
  | schema (origin : String) (error : Json.ParseError)
  | config (origin : String) (error : Json.ParseError)
  | io (path : Path) (fault : Fault)
  | glob (failure : Glob.GlobFailure)
  | build (error : BuildError)
  /-- A kind is defined in two files. -/
  | duplicateKind (kind : String) (first second : Path)
  /-- Generated files on disk differ from what would be generated. -/
  | stale (paths : List Path)
deriving DecidableEq, Repr

namespace Failure

/-- The words for a failure. -/
def message : Failure → String
  | .schema origin error => "failed to parse schema (" ++ origin ++ "): " ++ error.text
  | .config origin error => "failed to parse config (" ++ origin ++ "): " ++ error.text
  | .io path fault => "i/o error on " ++ path.text ++ ": " ++ fault.text
  | .glob failure => "glob pattern error: " ++ failure.text
  | .build error => error.message
  | .duplicateKind kind first second =>
      "node kind `" ++ kind ++ "` is defined in both " ++ first.text ++ " and " ++ second.text
  | .stale paths =>
      "generated artifacts are out of date: " ++ ", ".intercalate (paths.map (·.text))

end Failure

/-- A part of a run that uses the machine and may fail. -/
abbrev Action (m : Type → Type) (α : Type) := ExceptT Failure m α

namespace Action

variable {m : Type → Type} [Monad m] {α : Type}

/-- An outcome as a part of a run. -/
def ofExcept (outcome : Except Failure α) : Action m α :=
  ExceptT.mk (pure outcome)

/-- A service of the machine as a part of a run. A fault is reported with the path
that the service was asked for. -/
def request (path : Path) (service : m (Except Fault α)) : Action m α :=
  ExceptT.mk do
    match ← service with
    | .ok value => return .ok value
    | .error fault => return .error (.io path fault)

end Action

end NodeDecl
