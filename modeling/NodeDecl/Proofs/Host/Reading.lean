import NodeDecl.Command.Run
import NodeDecl.Proofs.Glob.Expansion

/-!
# Parts of a command that only read

Finding the input files, loading them, building a model, checking the generated files
and all reports leave the directory tree of a session as it is, and the current
directory too.
-/

namespace NodeDecl

open Session

/-! ## Input files -/

namespace Registry

theorem keeps_loadInto (merge : Merge) (paths : List Path) :
    Keeps surroundings (ExceptT.run (loadInto merge paths : Action (StateM Session) Merge)) := by
  induction paths generalizing merge with
  | nil => exact keeps_run_pure _
  | cons path rest ih =>
      apply (Action.keeps_request path (keeps_readText path)).run_bind
      intro text
      apply (Action.keeps_ofExcept _).run_bind
      intro part
      apply (Action.keeps_ofExcept _).run_bind
      intro merged
      apply (keeps_run_log _).run_bind
      intro _
      exact ih merged

theorem keeps_load (paths : List Path) :
    Keeps surroundings (ExceptT.run (load paths : Action (StateM Session) Registry)) := by
  apply (keeps_loadInto _ paths).run_bind
  intro merge
  exact keeps_run_pure _

end Registry

theorem Config.keeps_load (path? : Option Path) :
    Keeps surroundings (ExceptT.run (load path? : Action (StateM Session) Config)) := by
  cases path? with
  | none => exact keeps_run_pure _
  | some path =>
      apply (Action.keeps_request path (keeps_readText path)).run_bind
      intro text
      exact Action.keeps_ofExcept _

/-! ## Checks of generated files -/

namespace Artifacts

theorem keeps_isCurrent (path : Path) (text : String) :
    Keeps surroundings (ExceptT.run (isCurrent path text : Action (StateM Session) Bool)) := by
  apply (keeps_readText path).bind
  intro outcome
  split <;> exact keeps_pure _

theorem keeps_staleTargets (targets : List (Path × String)) :
    Keeps surroundings
      (ExceptT.run (staleTargets targets : Action (StateM Session) (List Path))) := by
  induction targets with
  | nil => exact keeps_run_pure _
  | cons target rest ih =>
      apply (keeps_isCurrent target.1 target.2).run_bind
      intro current
      apply ih.run_bind
      intro others
      exact keeps_run_pure _

theorem keeps_check (artifacts : Artifacts) (outDir : Path) (config : Config) :
    Keeps surroundings (ExceptT.run
      (artifacts.check outDir config : Action (StateM Session) Unit)) := by
  apply (keeps_staleTargets _).run_bind
  intro stale
  split
  · exact keeps_run_pure _
  · exact keeps_run_throw _

end Artifacts

/-! ## Parts of commands -/

namespace Command

theorem keeps_load (invocation : Invocation) :
    Keeps surroundings (ExceptT.run
      (load invocation : ExceptT CommandFailure (StateM Session) (Registry × Config))) := by
  apply ((Glob.keeps_expandAll (looks _) invocation.inputs).run_adapt _).run_bind
  intro paths
  apply ((Registry.keeps_load paths).run_adapt _).run_bind
  intro registry
  apply ((Config.keeps_load invocation.config).run_adapt _).run_bind
  intro config
  exact keeps_run_pure _

end Command

end NodeDecl
