import NodeDecl.Artifact
import NodeDecl.Proofs.Host.Disks

/-!
# Putting files in place

The generated files are put in place one after the other.  Each of them is filled under a
name of its own and then moved, so it is put in place as a whole or not at all, and nothing
stays under the other name.  The first that is refused ends the run: what has been put in
place before it stays.  In every case the files of the tree are known from the texts that
have been put in place and from the current directory, and new directories lead to these
and to the refused one only.  If the refused one is the other name, it is the name that was
made for that file.
-/

namespace NodeDecl

open Session FileTree

/-! ## Texts in place -/

/-- Files after some texts have been put in place from a current directory, one after the
other. -/
def putAll (here : List String) (files : List String → Option ByteArray)
    (targets : List (Path × String)) : List String → Option ByteArray :=
  targets.foldl
    (fun files target => Function.update files (target.1.place here) (some target.2.toUTF8)) files

/-- The bytes that the last of some texts puts at a place, if one of them stands there. -/
def latest (here : List String) : List (Path × String) → List String → Option ByteArray
  | [], _ => none
  | (path, text) :: rest, place =>
      (latest here rest place).or (if place = path.place here then some text.toUTF8 else none)

variable {here : List String} {files : List String → Option ByteArray}
  {targets : List (Path × String)}

theorem putAll_apply (here : List String) (files : List String → Option ByteArray)
    (targets : List (Path × String)) (place : List String) :
    putAll here files targets place = (latest here targets place).or (files place) := by
  induction targets generalizing files with
  | nil => rfl
  | cons target rest ih =>
      rw [putAll, List.foldl_cons, ← putAll, ih, latest, Option.or_assoc, Function.update_apply]
      split <;> rfl

/-- Nothing changes exactly if every text that counts is in its place already. -/
theorem putAll_eq_self_iff :
    putAll here files targets = files ↔
      ∀ place bytes, latest here targets place = some bytes → files place = some bytes := by
  constructor
  · intro same place bytes last
    rw [← same, putAll_apply, last]
    rfl
  · intro there
    funext place
    rw [putAll_apply]
    cases last : latest here targets place with
    | none => rfl
    | some bytes => exact (there place bytes last).symm

namespace Artifacts

/-- The places of the directories above a file. -/
def placesAbove (here : List String) (path : Path) : List (List String) :=
  path.directory.ancestors.map (·.place here)

/-- A tree and the one that comes of it by putting some files in place, one after the other.
Before each file come directories above it. -/
inductive Placement (here : List String) :
    FileTree → List (Path × String) → FileTree → Prop
  | nil (tree : FileTree) : Placement here tree [] tree
  | cons {tree grown filled last : FileTree} {path : Path} {text : String}
      {rest : List (Path × String)}
      (directories : AddsDirectories (placesAbove here path) tree grown)
      (file : PutsFile here path text.toUTF8 grown filled)
      (others : Placement here filled rest last) : Placement here tree ((path, text) :: rest) last

namespace Placement

variable {tree next : FileTree}

/-- The files are those before with the texts in place. -/
theorem contents (placement : Placement here tree targets next) :
    next.contents = putAll here tree.contents targets := by
  induction placement with
  | nil tree => rfl
  | cons directories file others ih =>
      rw [ih, file.contents, directories.contents]
      rfl

/-- Nothing is taken away. -/
theorem persists (placement : Placement here tree targets next) : Persists tree next := by
  induction placement with
  | nil tree => exact .of_eq rfl
  | cons directories file others ih =>
      exact (Persists.of_addsDirectories directories).trans (file.persists.trans ih)

/-- Every file that has been put in place is found through its path. -/
theorem locate (placement : Placement here tree targets next) :
    ∀ target ∈ targets, next.locate target.1 here = .ok (target.1.place here) := by
  induction placement with
  | nil tree =>
      intro target member
      cases member
  | cons directories file others ih =>
      intro target member
      rcases List.mem_cons.1 member with rfl | later
      · exact locate_of_persists others.persists file.located
      · exact ih target later

/-- A new directory is above one of the files. -/
theorem directory (placement : Placement here tree targets next) {place : List String}
    (stands : next.standingAt place = some .directory) :
    tree.standingAt place = some .directory ∨
      ∃ target ∈ targets, place ∈ placesAbove here target.1 := by
  induction placement with
  | nil tree => exact .inl stands
  | @cons tree grown filled last path text rest directories file others ih =>
      rcases ih stands with before | ⟨target, member, above⟩
      · rw [file.standingAt_eq, Function.update_apply] at before
        split at before
        · cases before
        · rcases directories place with same | ⟨above, -⟩
          · exact .inl (same ▸ before)
          · exact .inr ⟨(path, text), List.mem_cons_self, above⟩
      · exact .inr ⟨target, List.mem_cons_of_mem _ member, above⟩

end Placement

/-! ## Runs -/

/-- How putting files in place ends: with all of them there, or with one that is
refused. -/
inductive Ending (blames : Path × String → Path → Fault → Prop) (placed : List (Path × String)) :
    List (Path × String) → Except Failure (List Path) → Prop
  | complete : Ending blames placed [] (.ok (placed.map (·.1)))
  | refused (next : Path × String) (rest : List (Path × String)) (blamed : Path) (fault : Fault)
      (about : blames next blamed fault) :
      Ending blames placed (next :: rest) (.error (.io blamed fault))

namespace Ending

variable {blames : Path × String → Path → Fault → Prop} {placed rest : List (Path × String)}
  {outcome : Except Failure (List Path)}

/-- One more file in front of those that are in place. -/
theorem cons (target : Path × String) (ending : Ending blames placed rest outcome) :
    Ending blames (target :: placed) rest (outcome.map (target.1 :: ·)) := by
  cases ending with
  | complete => exact .complete
  | refused next others blamed fault about => exact .refused next others blamed fault about

theorem mono {others : Path × String → Path → Fault → Prop}
    (ending : Ending blames placed rest outcome)
    (implied : ∀ target blamed fault, blames target blamed fault → others target blamed fault) :
    Ending others placed rest outcome := by
  cases ending with
  | complete => exact .complete
  | refused next rest blamed fault about =>
      exact .refused next rest blamed fault (implied _ _ _ about)

end Ending

section

variable {σ : Type} [Host (StateM σ)] (disk : Disk σ) {state last : σ} {path temporary : Path}
  {text : String}

/-- A path is that of a temporary file for a target, and the file cannot be filled. -/
structure Unfilled (behind : σ) (target : Path × String) (temporary : Path) (fault : Fault) :
    Prop where
  /-- It is the file that is made for the target. -/
  refused : ∃ opened,
    outcomeIn behind (stage target.1 : Action (StateM σ) Path) = (.ok temporary, opened) ∧
      (Id.run ((Host.fill temporary target.2 : StateM σ _).run opened)).1 = .error fault
  /-- The path leads to a name in the directory of the target. -/
  isIn : temporary.IsIn target.1.directory (disk.directory behind)
  /-- Nothing was there. -/
  new : (disk.tree behind).standingAt (temporary.place (disk.directory behind)) = none

/-- What a refused file is blamed on: its directory, the file, or the temporary file for its
text. -/
def Blames (behind : σ) (target : Path × String) (blamed : Path) (fault : Fault) : Prop :=
  blamed = target.1.directory ∨ blamed = target.1 ∨ Unfilled disk behind target blamed fault

/-- How far putting some files in place gets in a state.  The first of them are in place in
the state `behind`; the next one, if there is one, is refused, and there are new directories
above it at most. -/
structure Progress (state : σ) (placed rest : List (Path × String)) (behind : σ)
    (outcome : Except Failure (List Path)) (last : σ) : Prop where
  ran : outcomeIn state (placeAll placed : Action (StateM σ) (List Path)) =
    (.ok (placed.map (·.1)), behind)
  ending : Ending (Blames disk behind) placed rest outcome
  placement : Placement (disk.directory state) (disk.tree state) placed (disk.tree behind)
  added : AddsDirectories
    ((rest.take 1).flatMap fun target => placesAbove (disk.directory state) target.1)
    (disk.tree behind) (disk.tree last)
  still : disk.directory last = disk.directory state

/-- What is done with a temporary file ends well, or the file is taken away. -/
theorem outcomeIn_orDiscard_cases {action : Action (StateM σ) Unit} {outcome : Except Failure Unit}
    (done : outcomeIn state (orDiscard temporary action) = (outcome, last)) :
    (outcome = .ok () ∧ outcomeIn state action = (.ok (), last)) ∨
      ∃ failure later, outcome = .error failure ∧
        outcomeIn state action = (.error failure, later) ∧
        last = (Id.run ((Host.discard temporary : StateM σ Unit).run later)).2 := by
  have unfolded : outcomeIn state (orDiscard temporary action) =
      match outcomeIn state action with
      | (.ok (), later) => (.ok (), later)
      | (.error failure, later) =>
          (.error failure, (Id.run ((Host.discard temporary : StateM σ Unit).run later)).2) := by
    rw [outcomeIn, orDiscard, ExceptT.run_mk, StateT.run_bind, Id.run_bind, outcomeIn]
    rcases (action.run.run state).run with ⟨_ | _, later⟩
    · rfl
    · rfl
  rw [unfolded] at done
  cases ran : outcomeIn state action with
  | mk result later =>
      rw [ran] at done
      cases result with
      | ok value =>
          cases done
          exact .inl ⟨rfl, rfl⟩
      | error failure =>
          cases done
          exact .inr ⟨failure, later, rfl, rfl, rfl⟩

/-- Filling and moving a temporary file keeps what every single request keeps. -/
theorem keeps_settle {γ : Type} {observe : σ → γ} (stays : Stays observe)
    (temporary path : Path) (text : String) :
    Keeps observe (ExceptT.run (settle temporary path text : Action (StateM σ) Unit)) := by
  have inner : Keeps observe (ExceptT.run (do
      Action.request temporary (Host.fill temporary text)
      Action.request path (Host.moveFile temporary path) : Action (StateM σ) Unit)) := by
    apply (Action.keeps_request _ (stays.fill temporary text)).run_bind
    intro _
    exact Action.keeps_request _ (stays.moveFile temporary path)
  apply inner.bind
  intro outcome
  cases outcome with
  | ok _ => exact keeps_pure _
  | error failure => exact (stays.discard temporary).bind fun _ => keeps_pure _

/-- How making a temporary file for a target ends: with a new file in the directory of the
target, behind directories above the target, or with such directories at most. -/
inductive Staging (state : σ) (path : Path) (last : σ) : Except Failure Path → Prop
  | made {temporary : Path} {grown : FileTree}
      (directories : AddsDirectories (placesAbove (disk.directory state) path)
        (disk.tree state) grown)
      (isIn : temporary.IsIn path.directory (disk.directory state))
      (fresh : grown.makeFile temporary (disk.directory state) = .ok (disk.tree last)) :
      Staging state path last (.ok temporary)
  | refused (fault : Fault)
      (directories : AddsDirectories (placesAbove (disk.directory state) path)
        (disk.tree state) (disk.tree last)) :
      Staging state path last (.error (.io path.directory fault))

theorem outcomeIn_stage {outcome : Except Failure Path}
    (done : outcomeIn state (stage path : Action (StateM σ) Path) = (outcome, last)) :
    disk.directory last = disk.directory state ∧ Staging disk state path last outcome := by
  rcases disk.adds_makeDirectories (disk.directory state) path.directory state rfl with
    ⟨added, inside⟩
  rw [stage] at done
  rcases outcomeIn_bind_cases done with ⟨failure, made, rfl⟩ | ⟨_, grown, made, opened⟩
  · rcases Action.outcomeIn_request_eq_error made with ⟨fault, rfl, service⟩
    rw [service] at added inside
    exact ⟨inside, .refused fault added⟩
  · rw [Action.outcomeIn_request_eq_ok made] at added inside
    have still := (Action.keeps_request path.directory
      (disk.stays.makeTemporary path.directory)).outcomeIn opened
    refine ⟨still.trans inside, ?_⟩
    have served := disk.makeTemporary path.directory grown
    cases outcome with
    | ok temporary =>
        rw [Action.outcomeIn_request_eq_ok opened, inside] at served
        exact .made added served.1 served.2
    | error failure =>
        rcases Action.outcomeIn_request_eq_error opened with ⟨fault, rfl, service⟩
        rw [service] at served
        exact .refused fault (added.trans (.of_eq (by rw [served])))

/-- With room for every file, a temporary file is never to blame. -/
theorem Unfilled.not_roomy {behind : σ} {target : Path × String} {fault : Fault}
    (unfilled : Unfilled disk behind target temporary fault) : ¬ disk.Roomy := by
  intro roomy
  rcases unfilled.refused with ⟨opened, staged, full⟩
  rcases outcomeIn_stage disk staged with ⟨still, staging⟩
  cases staging with
  | made _ _ fresh =>
      rw [← still] at fresh
      rcases (addsFile_of_makeFile fresh).2 target.2.toUTF8 with ⟨next, writable⟩
      rw [roomy temporary target.2 opened next writable] at full
      cases full

/-- How filling and moving a temporary file ends: with its text in place, or with everything
as it stood in the tree `start` before the file was made. -/
inductive Settling (start : FileTree) (state : σ) (temporary : Path) (target : Path × String)
    (last : σ) : Except Failure Unit → Prop
  | moved (file : PutsFile (disk.directory state) target.1 target.2.toUTF8 start
        (disk.tree last)) :
      Settling start state temporary target last (.ok ())
  | unmoved (fault : Fault) (same : (disk.tree last).standingAt = start.standingAt) :
      Settling start state temporary target last (.error (.io target.1 fault))
  | unfilled {fault : Fault}
      (full : (Id.run ((Host.fill temporary target.2 : StateM σ _).run state)).1 = .error fault)
      (same : (disk.tree last).standingAt = start.standingAt) :
      Settling start state temporary target last (.error (.io temporary fault))

theorem outcomeIn_settle {start : FileTree} {outcome : Except Failure Unit}
    (fresh : start.makeFile temporary (disk.directory state) = .ok (disk.tree state))
    (done : outcomeIn state (settle temporary path text : Action (StateM σ) Unit) =
      (outcome, last)) : Settling disk start state temporary (path, text) last outcome := by
  have empty := (addsFile_of_makeFile fresh).1
  -- whatever is in the temporary file, it can be taken away
  have taken : ∀ {bytes later}, disk.directory later = disk.directory state →
      AddsFile (disk.directory state) temporary bytes start (disk.tree later) →
      (disk.tree (Id.run ((Host.discard temporary : StateM σ Unit).run later)).2).standingAt =
        start.standingAt := by
    intro bytes later inside adds
    rcases adds.remove with ⟨rest, removed, same⟩
    rw [← inside] at removed
    rw [disk.discard temporary later rest removed, same]
  have filling := disk.fill temporary text state
  have still := disk.stays.fill temporary text state
  rcases outcomeIn_orDiscard_cases done with ⟨rfl, ran⟩ | ⟨failure, later, rfl, ran, rfl⟩
  · rcases outcomeIn_bind_cases ran with ⟨_, -, absurdity⟩ | ⟨_, filled, first, second⟩
    · cases absurdity
    · rw [Action.outcomeIn_request_eq_ok first] at filling still
      have moving := disk.moveFile temporary path filled
      rw [Action.outcomeIn_request_eq_ok second, still] at moving
      exact .moved ((empty.write filling).move moving)
  · rcases outcomeIn_bind_cases ran with ⟨failed, first, equal⟩ | ⟨_, filled, first, second⟩
    · cases equal
      rcases Action.outcomeIn_request_eq_error first with ⟨fault, rfl, service⟩
      rw [service] at filling still
      refine .unfilled (by rw [service]) ?_
      rcases filling with untouched | ⟨bytes, partly⟩
      · exact taken still (untouched ▸ empty)
      · exact taken still (empty.write partly)
    · rcases Action.outcomeIn_request_eq_error second with ⟨fault, rfl, service⟩
      rw [Action.outcomeIn_request_eq_ok first] at filling still
      have moving := disk.moveFile temporary path filled
      have moved := disk.stays.moveFile temporary path filled
      rw [service] at moving moved
      exact .unmoved fault (taken (moved.trans still) (moving ▸ empty.write filling))

/-- How putting a file in place ends: with the file behind directories above it, or with
such directories at most. -/
inductive Placing (state : σ) (target : Path × String) (last : σ) : Except Failure Unit → Prop
  | placed {grown : FileTree}
      (directories : AddsDirectories (placesAbove (disk.directory state) target.1)
        (disk.tree state) grown)
      (file : PutsFile (disk.directory state) target.1 target.2.toUTF8 grown (disk.tree last)) :
      Placing state target last (.ok ())
  | refused {blamed : Path} {fault : Fault} (about : Blames disk state target blamed fault)
      (directories : AddsDirectories (placesAbove (disk.directory state) target.1)
        (disk.tree state) (disk.tree last)) :
      Placing state target last (.error (.io blamed fault))

theorem outcomeIn_place {outcome : Except Failure Unit}
    (done : outcomeIn state (place path text : Action (StateM σ) Unit) = (outcome, last)) :
    disk.directory last = disk.directory state ∧ Placing disk state (path, text) last outcome := by
  rw [place] at done
  rcases outcomeIn_bind_cases done with ⟨failure, staged, rfl⟩ | ⟨temporary, opened, staged, done⟩
  · rcases outcomeIn_stage disk staged with ⟨still, staging⟩
    cases staging with
    | refused fault directories => exact ⟨still, .refused (.inl rfl) directories⟩
  · rcases outcomeIn_stage disk staged with ⟨inside, staging⟩
    refine ⟨((keeps_settle disk.stays temporary path text).outcomeIn done).trans inside, ?_⟩
    cases staging with
    | made directories isIn fresh =>
        rw [← inside] at fresh
        cases outcomeIn_settle disk fresh done with
        | moved file => exact .placed directories (inside ▸ file)
        | unmoved fault same => exact .refused (.inr (.inl rfl)) (directories.trans (.of_eq same))
        | unfilled full same =>
            have absent := (addsFile_of_makeFile fresh).1.absent
            rw [inside] at absent
            exact .refused (.inr (.inr ⟨⟨opened, staged, full⟩, isIn, directories.absent absent⟩))
              (directories.trans (.of_eq same))

/-- Behind a file that has been put in place come the others. -/
theorem outcomeIn_placeAll_cons {later noted : σ} (rest : List (Path × String))
    (first : outcomeIn state (place path text : Action (StateM σ) Unit) = (.ok (), later))
    (logs : (Id.run ((Host.log (.wrote path) : StateM σ Unit).run later)).2 = noted) :
    outcomeIn state (placeAll ((path, text) :: rest) : Action (StateM σ) (List Path)) =
      ((outcomeIn noted (placeAll rest)).1.map (path :: ·),
        (outcomeIn noted (placeAll rest)).2) := by
  have logged : outcomeIn later (Host.log (.wrote path) : Action (StateM σ) Unit) =
      (.ok (), noted) := by
    rw [← logs]
    rfl
  rw [placeAll, outcomeIn_bind_of_ok first, outcomeIn_bind_of_ok logged, outcomeIn_bind_pure]

/-- With one more file in front, a run gets one file further. -/
theorem Progress.cons {later noted behind : σ} {placed rest : List (Path × String)}
    {outcome : Except Failure (List Path)} {grown : FileTree}
    (first : outcomeIn state (place path text : Action (StateM σ) Unit) = (.ok (), later))
    (logs : (Id.run ((Host.log (.wrote path) : StateM σ Unit).run later)).2 = noted)
    (inside : disk.directory noted = disk.directory state)
    (directories : AddsDirectories (placesAbove (disk.directory state) path) (disk.tree state)
      grown)
    (file : PutsFile (disk.directory state) path text.toUTF8 grown (disk.tree noted))
    (others : Progress disk noted placed rest behind outcome last) :
    Progress disk state ((path, text) :: placed) rest behind (outcome.map (path :: ·)) last := by
  rcases others with ⟨ran, ending, placement, added, still⟩
  rw [inside] at placement added still
  constructor
  case ran =>
    rw [outcomeIn_placeAll_cons placed first logs, ran]
    rfl
  case ending => exact ending.cons (path, text)
  case placement => exact .cons directories file placement
  case added => exact added
  case still => exact still

/-- What has been put in place is a front part of the targets; behind it there are at most
directories above the next one. -/
theorem outcomeIn_placeAll {outcome : Except Failure (List Path)}
    (done : outcomeIn state (placeAll targets : Action (StateM σ) (List Path)) =
      (outcome, last)) :
    ∃ placed rest behind, targets = placed ++ rest ∧
      Progress disk state placed rest behind outcome last := by
  induction targets generalizing state last outcome with
  | nil =>
      cases done
      exact ⟨[], [], state, rfl, rfl, .complete, .nil _, .refl _ _, rfl⟩
  | cons target rest ih =>
      rcases target with ⟨path, text⟩
      rcases places : outcomeIn state (place path text : Action (StateM σ) Unit) with ⟨ended, later⟩
      rcases outcomeIn_place disk places with ⟨inside, placing⟩
      cases placing with
      | placed directories file =>
          rw [outcomeIn_placeAll_cons rest places rfl] at done
          cases done
          rcases ih (Prod.eta _).symm with ⟨placed, others, behind, rfl, progress⟩
          rw [← disk.log (.wrote path) later] at file
          exact ⟨(path, text) :: placed, others, behind, rfl,
            progress.cons disk places rfl ((disk.stays.log _ later).trans inside) directories file⟩
      | refused about directories =>
          rw [placeAll, outcomeIn_bind_of_error places] at done
          cases done
          refine ⟨[], (path, text) :: rest, state, rfl, rfl, .refused _ _ _ _ about, .nil _, ?_,
            inside⟩
          simpa using directories

end

variable {session last : Session}

/-- What has been put in place is a front part of the targets, and the files are those
before with these texts. -/
theorem carryOut_placeAll {outcome : Except Failure (List Path)}
    (done : session.carryOut (placeAll targets) = (outcome, last)) :
    ∃ placed rest, targets = placed ++ rest ∧
      Ending (fun target blamed _ => blamed = target.1.directory ∨ blamed = target.1)
        placed rest outcome ∧
      last.tree.contents = putAll session.directory session.tree.contents placed := by
  rcases outcomeIn_placeAll Session.disk done with ⟨placed, rest, behind, whole, progress⟩
  refine ⟨placed, rest, whole, progress.ending.mono ?_,
    progress.added.contents.trans progress.placement.contents⟩
  intro target blamed fault about
  rcases about with isDirectory | isPath | unfilled
  · exact .inl isDirectory
  · exact .inr isPath
  · exact absurd disk_roomy unfilled.not_roomy

/-! ## All or nothing -/

/-- What putting some targets in place from a current directory leaves behind when it gets
as far as a number of them. -/
structure Written (here : List String) (targets : List (Path × String)) (count : Nat)
    (tree next : FileTree) : Prop where
  /-- The files are those before with these targets in place. -/
  files : next.contents = putAll here tree.contents (targets.take count)
  /-- No directory is taken away. -/
  kept : ∀ place, tree.standingAt place = some .directory →
    next.standingAt place = some .directory
  /-- A new directory is above one of these targets or above the next one. -/
  added : ∀ place, next.standingAt place = some .directory →
    tree.standingAt place = some .directory ∨
      ∃ target ∈ targets.take (count + 1), place ∈ placesAbove here target.1

theorem Written.of_placement {tree reached next : FileTree} {placed rest : List (Path × String)}
    (placement : Placement here tree placed reached)
    (added : AddsDirectories ((rest.take 1).flatMap fun target => placesAbove here target.1)
      reached next) : Written here (placed ++ rest) placed.length tree next := by
  constructor
  case files => rw [List.take_left', added.contents, placement.contents]; rfl
  case kept =>
    exact (placement.persists.trans (.of_addsDirectories added)).directory
  case added =>
    intro place stands
    rw [List.take_length_add_append]
    rcases added place with same | ⟨above, -⟩
    · rcases placement.directory (same ▸ stands) with before | ⟨target, member, above⟩
      · exact .inl before
      · exact .inr ⟨target, List.mem_append_left _ member, above⟩
    · rcases List.mem_flatMap.1 above with ⟨target, member, above⟩
      exact .inr ⟨target, List.mem_append_right _ member, above⟩

/-- On every machine, writing gets as far as some number of the three targets.  These are
in place as a whole, and nothing else has come or gone but directories above them and
above the next target.  Unless all three are there, the failure is about the next one, its
directory or the temporary file that is made for it behind the others and cannot be
filled. -/
theorem write_all_or_nothing {σ : Type} [Host (StateM σ)] (disk : Disk σ) (state : σ)
    (artifacts : Artifacts) (outDir : Path) (config : Config) :
    let targets := artifacts.targets outDir config
    let run := outcomeIn state (artifacts.write outDir config)
    ∃ count ≤ 3,
      Written (disk.directory state) targets count (disk.tree state) (disk.tree run.2) ∧
      (run.1 = .ok (targets.map (·.1)) ↔ count = 3) ∧
      ∀ refused, targets[count]? = some refused →
        ∃ behind blamed fault,
          outcomeIn state (placeAll (targets.take count) : Action (StateM σ) (List Path)) =
            (.ok ((targets.take count).map (·.1)), behind) ∧
          run.1 = .error (.io blamed fault) ∧
          (blamed = refused.1 ∨ blamed = refused.1.directory ∨
            Unfilled disk behind refused blamed fault) := by
  intro targets run
  rcases outcomeIn_placeAll disk (Prod.eta run).symm with
    ⟨placed, rest, behind, whole, ran, ending, placement, added, -⟩
  have total : placed.length + rest.length = 3 := by
    rw [← List.length_append, ← whole]
    rfl
  refine ⟨placed.length, by omega, ?_, ?_⟩
  · rw [show targets = placed ++ rest from whole]
    exact .of_placement placement added
  · generalize run.1 = outcome at ending ⊢
    rw [show targets = placed ++ rest from whole]
    cases ending with
    | complete =>
        rw [List.length_nil, Nat.add_zero] at total
        refine ⟨by simp [total], ?_⟩
        intro refused found
        simp at found
    | refused next others blamed fault about =>
        rw [List.length_cons] at total
        refine ⟨by simp; omega, ?_⟩
        intro refused found
        rw [List.getElem?_append_right (Nat.le_refl _), Nat.sub_self, List.getElem?_cons_zero,
          Option.some.injEq] at found
        subst found
        rw [List.take_left]
        refine ⟨behind, blamed, fault, ran, rfl, ?_⟩
        rcases about with isDirectory | isPath | unfilled
        · exact .inr (.inl isDirectory)
        · exact .inl isPath
        · exact .inr (.inr unfilled)

/-- A directory that stands where the stub should go: a session in a directory of its own
gets as far as the catalogue. -/
theorem write_all_or_nothing_of_blocked_stub :
    let tree : FileTree := .directory
      [("work", .directory [("lib", .directory [("index.js.flow", .directory [])])])]
    let session : Session := { tree, directory := ["work"] }
    let artifacts : Artifacts := { catalogue := "nodes", stub := "stub", wrapper := "wrapper" }
    ∃ last, outcomeIn session (artifacts.write .current {}) =
        (.error (.io ⟨"./lib/index.js.flow"⟩ .isDirectory), last) ∧
      Written ["work"] (artifacts.targets .current {}) 1 tree last.tree ∧
      last.tree.contents = putAll ["work"] tree.contents [(⟨"./babel-nodes.js"⟩, "nodes")] := by
  intro tree session artifacts
  have failed : (outcomeIn session (artifacts.write .current {})).1 =
      .error (.io ⟨"./lib/index.js.flow"⟩ .isDirectory) := by
    decide +kernel
  have catalogue : ((outcomeIn session (artifacts.write .current {})).2.tree.contents
      ["work", "babel-nodes.js"]).isSome = true := by
    decide +kernel
  have stub : ((outcomeIn session (artifacts.write .current {})).2.tree.contents
      ["work", "lib", "index.js.flow"]).isSome = false := by
    decide +kernel
  have general := write_all_or_nothing Session.disk session artifacts .current {}
  rcases run : outcomeIn session (artifacts.write .current {}) with ⟨outcome, last⟩
  simp only [run, disk_tree, disk_directory] at failed catalogue stub general
  subst failed
  rcases general with ⟨count, atMost, written, complete, -⟩
  rw [written.files] at catalogue stub
  have first : ∀ count ≤ 3,
      (putAll ["work"] tree.contents ((artifacts.targets .current {}).take count)
        ["work", "babel-nodes.js"]).isSome = true →
      (putAll ["work"] tree.contents ((artifacts.targets .current {}).take count)
        ["work", "lib", "index.js.flow"]).isSome = false → count = 1 := by
    decide +kernel
  cases first count atMost catalogue stub
  exact ⟨last, rfl, written, written.files⟩

end Artifacts

end NodeDecl
