import NodeDecl.Proofs.Artifact.Writing
import NodeDecl.Proofs.Host.Reading

/-!
# Runs of `generate`

A run of `generate` leaves the tree as it is until it puts the generated files in
place, which is the last thing that can fail in it.  A run that fails there has put the
files in place that come before the refused one, and they stay.
-/

namespace NodeDecl.Command

open Session Artifacts

variable {α : Type} {invocation : Invocation} {session last : Session}

/-- Printing cannot fail, and leaves the surroundings as they are. -/
theorem carryOut_printAll (lines : List String) (session : Session) :
    ∃ later, session.carryOut (printAll lines : ExceptT CommandFailure (StateM Session) Unit) =
      (.ok (), later) ∧ later.surroundings = session.surroundings := by
  induction lines generalizing session with
  | nil => exact ⟨session, rfl, rfl⟩
  | cons line rest ih => exact ih { session with output := session.output ++ [line] }

/-- Reporting cannot fail, and leaves the surroundings as they are. -/
theorem carryOut_report (entries : List LogEntry) (session : Session) :
    ∃ later, session.carryOut (report entries : ExceptT CommandFailure (StateM Session) Unit) =
      (.ok (), later) ∧ later.surroundings = session.surroundings := by
  induction entries generalizing session with
  | nil => exact ⟨session, rfl, rfl⟩
  | cons entry rest ih => exact ih { session with log := session.log ++ [entry] }

/-- A build that is settled comes to its own outcome. -/
theorem carryOut_settle (build : Build α) (session : Session) :
    ∃ later, session.carryOut (settle build : ExceptT CommandFailure (StateM Session) α) =
      (build.outcome.mapError fun error => .run (.build error), later) ∧
        later.surroundings = session.surroundings := by
  rcases carryOut_report (build.warnings.map .unrecognisedValidator) session with
    ⟨later, reports, same⟩
  refine ⟨later, ?_, same⟩
  rw [settle, carryOut_bind, reports]
  cases build.outcome with
  | ok value => rfl
  | error error => rfl

/-- A run that has come to the writing of its files: input and configuration are loaded,
everything is generated, and the tree and the current directory are as before. -/
structure Writing (invocation : Invocation) (session : Session) where
  registry : Registry
  config : Config
  generation : Generation
  /-- The session after loading. -/
  loaded : Session
  /-- The session that the writing begins with. -/
  start : Session
  loads : session.carryOut (load invocation) = (.ok (registry, config), loaded)
  generates : (registry.generate config).outcome = .ok generation
  writes : invocation.check = false
  same : start.tree = session.tree
  sameDirectory : start.directory = session.directory

namespace Writing

/-- The files to write and their texts. -/
def targets (writing : Writing invocation session) : List (Path × String) :=
  writing.generation.artifacts.targets invocation.outDir writing.config

/-- What has been loaded is what loading gives. -/
theorem loaded_eq (writing : Writing invocation session) {registry : Registry} {config : Config}
    {loaded : Session}
    (loads : session.carryOut (load invocation) = (.ok (registry, config), loaded)) :
    writing.registry = registry ∧ writing.config = config := by
  have equal := congrArg Prod.fst (writing.loads.symm.trans loads)
  exact Prod.mk.inj (Except.ok.inj equal)

end Writing

/-- Behind the writing nothing fails, and the tree stays. -/
theorem carryOut_written {start : Session} {targets : List (Path × String)} {line : String}
    {outcome : Except CommandFailure Unit}
    (done : start.carryOut (do
      let written ← perform (placeAll targets : Action (StateM Session) (List Path))
      printAll (written.map fun path => "  ✓ " ++ path.text)
      Host.print line) = (outcome, last)) :
    ∃ written after, start.carryOut (placeAll targets) = (written, after) ∧
      last.tree = after.tree ∧ outcome = (written.map fun _ => ()).mapError .run := by
  cases places : start.carryOut (placeAll targets : Action (StateM Session) (List Path)) with
  | mk written after =>
      refine ⟨written, after, rfl, ?_⟩
      rw [carryOut_bind, perform, carryOut_adapt, places] at done
      cases written with
      | error failure =>
          cases done
          exact ⟨rfl, rfl⟩
      | ok paths =>
          rcases carryOut_printAll (paths.map fun path => "  ✓ " ++ path.text) after with
            ⟨printed, prints, same⟩
          simp only [Except.mapError, carryOut_bind, prints] at done
          cases done
          exact ⟨congrArg Prod.fst same, rfl⟩

/-- A run does not come to the writing and leaves the tree as it is, or it does and its
outcome and its tree are those of the writing. -/
theorem carryOut_generate {outcome : Except CommandFailure Unit}
    (done : session.carryOut (generate invocation) = (outcome, last)) :
    (IsEmpty (Writing invocation session) ∧ last.tree = session.tree) ∨
      ∃ (writing : Writing invocation session) (written : Except Failure (List Path))
        (after : Session),
        writing.start.carryOut (placeAll writing.targets) = (written, after) ∧
          last.tree = after.tree ∧ outcome = (written.map fun _ => ()).mapError .run := by
  rw [generate] at done
  rcases carryOut_bind_cases done with ⟨_, stopped, -⟩ | ⟨⟨registry, config⟩, loaded, loads, done⟩
  · refine .inl ⟨⟨fun writing => ?_⟩, (keeps_load invocation).same_tree stopped⟩
    cases stopped.symm.trans writing.loads
  have sameLoaded : loaded.surroundings = session.surroundings :=
    (keeps_load invocation).outcomeIn loads
  rcases carryOut_settle (registry.generate config) loaded with ⟨settled, settles, sameSettled⟩
  rw [carryOut_bind, settles] at done
  cases generates : (registry.generate config).outcome with
  | error error =>
      rw [generates] at done
      cases done
      refine .inl ⟨⟨fun writing => ?_⟩, congrArg Prod.fst (sameSettled.trans sameLoaded)⟩
      have other := writing.generates
      rw [(writing.loaded_eq loads).1, (writing.loaded_eq loads).2, generates] at other
      cases other
  | ok generation =>
      simp only [generates, Except.mapError] at done
      rcases carryOut_bind_cases done with ⟨_, reported, -⟩ | ⟨_, start, reported, done⟩
      · cases reported
      have same : start.surroundings = session.surroundings :=
        ((keeps_run_log _).outcomeIn reported).trans (sameSettled.trans sameLoaded)
      split at done
      · next checking =>
        refine .inl ⟨⟨fun writing => ?_⟩, ?_⟩
        · exact absurd checking (by rw [writing.writes]; decide)
        · rw [← show start.tree = session.tree from congrArg Prod.fst same]
          rcases carryOut_bind_cases done with ⟨_, stopped, -⟩ | ⟨_, checked, checks, done⟩
          · exact ((keeps_check _ _ _).run_adapt _).same_tree stopped
          · rw [(keeps_run_print _).same_tree done,
              ((keeps_check _ _ _).run_adapt _).same_tree checks]
      · next unchecked =>
        right
        let writing : Writing invocation session :=
          { registry, config, generation, loaded, start, loads, generates
            writes := Bool.eq_false_iff.2 unchecked
            same := congrArg Prod.fst same
            sameDirectory := congrArg Prod.snd same }
        exact ⟨writing, carryOut_written done⟩

/-- A run of `generate` that fails does not come to the writing of its files and leaves the
tree as it is, or it has put the files in place that come before a refused one.  Then the
files of the tree are those before with these texts, and none has changed exactly if the
texts were there already. -/
theorem run_generate_failure {failure : CommandFailure} (verb : invocation.verb = .generate)
    (failed : session.carryOut (run invocation) = (.error failure, last)) :
    (IsEmpty (Writing invocation session) ∧ last.tree = session.tree) ∨
      ∃ (writing : Writing invocation session) (placed : List (Path × String))
        (next : Path × String) (rest : List (Path × String)) (blamed : Path) (fault : Fault),
        writing.targets = placed ++ next :: rest ∧
        failure = .run (.io blamed fault) ∧ (blamed = next.1.directory ∨ blamed = next.1) ∧
        last.tree.contents = putAll session.directory session.tree.contents placed ∧
        (last.tree.contents = session.tree.contents ↔
          ∀ place bytes, latest session.directory placed place = some bytes →
            session.tree.contents place = some bytes) := by
  rw [run, verb] at failed
  split at failed
  · cases failed
  rcases carryOut_generate failed with unchanged | ⟨writing, written, after, places, same, outcome⟩
  · exact .inl unchanged
  · right
    rcases carryOut_placeAll places with ⟨placed, behind, whole, ending, files⟩
    rw [writing.same, writing.sameDirectory, ← same] at files
    cases ending with
    | complete => cases outcome
    | refused next rest blamed fault about =>
        cases outcome
        exact ⟨writing, placed, next, rest, blamed, fault, whole, rfl, about, files,
          files ▸ putAll_eq_self_iff⟩

/-- A kind whose name is no identifier, and a catalogue that an earlier run has left. -/
theorem run_generate_failure_of_bad_name :
    let tree : FileTree := .directory
      [("babel-nodes.js", .file "// @flow".toUTF8),
        ("schema.json", .file "\x7b\"nodes\": \x7b\"0\": \x7b\x7d\x7d\x7d".toUTF8)]
    let session : Session := { tree }
    ∃ invocation last, parse ["generate", "-i", "schema.json"] = .ok invocation ∧
      invocation.verb = .generate ∧
      session.carryOut (run invocation) =
        (.error (.run (.build (.invalidIdentifier "0"))), last) ∧
      last.tree = tree := by
  intro tree session
  let invocation : Invocation :=
    { verb := .generate, inputs := ["schema.json"], config := none, outDir := .current
      out := none, check := false, noOp := false }
  have parsed : parse ["generate", "-i", "schema.json"] = .ok invocation := by decide +kernel
  have refused : (session.carryOut (run invocation)).1 =
      .error (.run (.build (.invalidIdentifier "0"))) := by
    decide +kernel
  have failed : session.carryOut (run invocation) = (.error _, _) := Prod.ext refused rfl
  refine ⟨invocation, _, parsed, rfl, failed, ?_⟩
  rcases run_generate_failure rfl failed with unchanged | ⟨_, _, _, _, _, _, _, other, _⟩
  · exact unchanged.2
  · cases other

/-- A directory that stands where the stub should go makes the run fail, but by then a new
catalogue has been put in place. -/
theorem run_generate_failure_adds_catalogue :
    let tree : FileTree := .directory
      [("lib", .directory [("index.js.flow", .directory [])]),
        ("schema.json", .file "\x7b\"nodes\": \x7b\"Identifier\": \x7b\x7d\x7d\x7d".toUTF8)]
    let session : Session := { tree }
    ∃ invocation, parse ["generate", "-i", "schema.json"] = .ok invocation ∧
      invocation.verb = .generate ∧
      (session.carryOut (run invocation)).1 =
        .error (.run (.io ⟨"./lib/index.js.flow"⟩ .isDirectory)) ∧
      tree.contents ["babel-nodes.js"] = none ∧
      ((session.carryOut (run invocation)).2.tree.contents ["babel-nodes.js"]).isSome := by
  intro tree session
  let invocation : Invocation :=
    { verb := .generate, inputs := ["schema.json"], config := none, outDir := .current
      out := none, check := false, noOp := false }
  have parsed : parse ["generate", "-i", "schema.json"] = .ok invocation := by decide +kernel
  refine ⟨invocation, parsed, rfl, ?_, rfl, ?_⟩
  · decide +kernel
  · decide +kernel

end NodeDecl.Command
