import NodeDecl.Proofs.Artifact.Generation
import NodeDecl.Proofs.Artifact.Writing
import NodeDecl.Proofs.Layout.Lines

/-!
# Checking what has been written

A check compares the targets with the tree one by one.  Right behind a run that has put all
of them in place it finds each target as the last one at the same place has left it, and
since no two generated texts are equal, the targets that it reports are exactly those that
a later one has replaced.  So writing and checking agree exactly if the three paths of the
configuration lead to three places.
-/

namespace NodeDecl

open Session FileTree

/-! ## The texts -/

namespace Layout

/-- A text begins as the line in front does. -/
theorem head?_render_line {text : String} {c : Char} (begins : text.toList.head? = some c)
    (rest : List Layout) : (render (.line text :: rest)).toList.head? = some c := by
  simp [render_eq, allLines, lines, setIn_zero, Text.ended, begins]

/-- A text begins as the opening line of the block in front does. -/
theorem head?_render_block {opening : String} {c : Char} (begins : opening.toList.head? = some c)
    (closing : String) (body rest : List Layout) :
    (render (.block opening closing body :: rest)).toList.head? = some c := by
  simp [render_eq, allLines, lines, setIn_zero, Text.ended, begins]

end Layout

/-- The lines that catalogue and stub begin with. -/
def flowHeader : List Layout :=
  [.line "// @flow", .line generatedBy, .blank]

/-- Behind the header the catalogue goes on with the type of positions. -/
theorem Catalogue.render_begins (model : Model) (config : Config) :
    ∃ rest : String, Catalogue.render model config = Layout.render flowHeader ++ rest ∧
      rest.toList.head? = some 't' := by
  let declarations : List Layout :=
    model.kinds.flatMap (fun kind => [classLayout config.nodeSuffix kind, .blank]) ++
      model.groups.entries.flatMap
        (fun group => [unionLayout config.nodeSuffix group, .blank]) ++
      config.catalogueTrailer.map .line
  have parts : layout model config = flowHeader ++ .line location :: .blank :: declarations := by
    simp only [layout, declarations, List.append_assoc]
    rfl
  refine ⟨Layout.render (.line location :: .blank :: declarations), ?_, ?_⟩
  · rw [Catalogue.render, parts, Layout.render_append]
  · exact Layout.head?_render_line (by decide +kernel) _

/-- Behind the header the stub goes on with a declaration. -/
theorem Stub.render_begins (model : Model) (config : Config) :
    ∃ rest : String, Stub.render model config = Layout.render flowHeader ++ rest ∧
      rest.toList.head? = some 'd' := by
  rw [Stub.render, Stub.layout, List.append_assoc, ← flowHeader]
  refine ⟨_, Layout.render_append _ _, ?_⟩
  cases model.groups.entries with
  | nil => exact Layout.head?_render_block (by simp) _ _ _
  | cons group groups => exact Layout.head?_render_block (by simp) _ _ _

/-- No two of the generated texts are equal. -/
theorem Artifacts.ofModel_distinct (model : Model) (config : Config) :
    let artifacts := Artifacts.ofModel model config
    [artifacts.catalogue, artifacts.stub, artifacts.wrapper].Nodup := by
  rcases Catalogue.render_begins model config with ⟨catalogueRest, catalogue, typeNext⟩
  rcases Stub.render_begins model config with ⟨stubRest, stub, declarationNext⟩
  have fourth : ∀ {front : String} {c : Char}, front.toList[3]? = some c →
      ∀ rest : String, (front ++ rest).toList[3]? = some c := by
    intro front c there rest
    rw [String.toList_append, List.getElem?_append_left (List.getElem?_eq_some_iff.1 there).1,
      there]
  have header := fourth (show (Layout.render flowHeader).toList[3]? = some '@' by decide +kernel)
  have wrapper : (Wrapper.render model config).toList[3]? = some 'g' := by
    rw [Wrapper.render, Wrapper.layout, ← List.singleton_append, Layout.render_append]
    exact fourth (by decide +kernel) _
  have catalogue_ne_stub : Catalogue.render model config ≠ Stub.render model config := by
    intro equal
    rw [catalogue, stub, String.append_right_inj] at equal
    rw [equal, declarationNext] at typeNext
    cases typeNext
  have ne_wrapper : ∀ rest, Layout.render flowHeader ++ rest ≠ Wrapper.render model config := by
    intro rest equal
    rw [← equal, header] at wrapper
    cases wrapper
  have catalogue_ne_wrapper := catalogue ▸ ne_wrapper catalogueRest
  have stub_ne_wrapper := stub ▸ ne_wrapper stubRest
  simp [Artifacts.ofModel, catalogue_ne_stub, catalogue_ne_wrapper, stub_ne_wrapper]

namespace Artifacts

/-! ## The verdict on a tree -/

variable {tree : FileTree} {here : List String} {targets : List (Path × String)} {path : Path}
  {text : String}

/-- Why a target cannot be compared.  One that is not there can be. -/
def obstacle? (tree : FileTree) (here : List String) (target : Path × String) : Option Failure :=
  match tree.readText target.1 here with
  | .ok _ => none
  | .error .noSuchEntry => none
  | .error fault => some (.io target.1 fault)

/-- The targets that do not hold their texts. -/
def stale (tree : FileTree) (here : List String) (targets : List (Path × String)) : List Path :=
  (targets.filter fun target => tree.readText target.1 here ≠ .ok target.2).map (·.1)

/-- What is said about the targets that do not hold their texts. -/
def verdict : List Path → Except Failure Unit
  | [] => .ok ()
  | path :: paths => .error (.stale (path :: paths))

theorem verdict_eq_ok_iff {paths : List Path} : verdict paths = .ok () ↔ paths = [] := by
  cases paths with
  | nil => simp [verdict]
  | cons path paths => simp [verdict]

theorem carryOut_isCurrent (session : Session) (path : Path) (text : String) :
    session.carryOut (isCurrent path text) =
      (match obstacle? session.tree session.directory (path, text) with
        | some failure => .error failure
        | none => .ok (decide (session.tree.readText path session.directory = .ok text)),
        session) := by
  have read : Id.run ((Host.readText path : StateM Session _).run session) =
      (session.tree.readText path session.directory, session) := rfl
  rw [carryOut, isCurrent, ExceptT.run_mk, StateT.run_bind, Id.run_bind, read, obstacle?]
  cases found : session.tree.readText path session.directory with
  | ok current => simp
  | error fault => cases fault <;> simp

/-- The targets are compared one by one, up to the first that cannot be, and nothing
changes. -/
theorem carryOut_staleTargets (session : Session) (targets : List (Path × String)) :
    session.carryOut (staleTargets targets) =
      (match targets.findSome? (obstacle? session.tree session.directory) with
        | some failure => .error failure
        | none => .ok (stale session.tree session.directory targets), session) := by
  induction targets with
  | nil => rfl
  | cons target rest ih =>
      rcases target with ⟨path, text⟩
      rw [staleTargets, carryOut_bind, carryOut_isCurrent, List.findSome?_cons]
      cases obstacle? session.tree session.directory (path, text) with
      | some failure => rfl
      | none =>
          dsimp only
          rw [carryOut_bind, ih]
          cases rest.findSome? (obstacle? session.tree session.directory) with
          | some failure => rfl
          | none =>
              by_cases holds : session.tree.readText path session.directory = .ok text
              · simp [stale, holds]
                rfl
              · simp [stale, holds]
                rfl

/-- A check names the targets that do not hold their texts, unless one of them cannot be
compared, and changes nothing. -/
theorem carryOut_check (session : Session) (artifacts : Artifacts) (outDir : Path)
    (config : Config) :
    session.carryOut (artifacts.check outDir config) =
      (match (artifacts.targets outDir config).findSome?
            (obstacle? session.tree session.directory) with
        | some failure => .error failure
        | none =>
            verdict (stale session.tree session.directory (artifacts.targets outDir config)),
        session) := by
  rw [check, carryOut_bind, carryOut_staleTargets]
  cases (artifacts.targets outDir config).findSome? (obstacle? session.tree session.directory) with
  | some failure => rfl
  | none =>
      dsimp only
      cases stale session.tree session.directory (artifacts.targets outDir config) with
      | nil => rfl
      | cons path paths => rfl

/-! ## Behind a run that has put all of them in place -/

/-- The paths whose places a later target takes. -/
def replaced (here : List String) : List (Path × String) → List Path
  | [] => []
  | (path, _) :: rest =>
      if path.place here ∈ rest.map (·.1.place here) then path :: replaced here rest
      else replaced here rest

theorem replaced_eq_nil_iff :
    replaced here targets = [] ↔ (targets.map (·.1.place here)).Nodup := by
  induction targets with
  | nil => simp [replaced]
  | cons target rest ih =>
      rw [replaced, List.map_cons, List.nodup_cons, ← ih]
      split
      · next taken => simp [taken]
      · next free => simp [free]

theorem latest_eq_none {place : List String} (free : place ∉ targets.map (·.1.place here)) :
    latest here targets place = none := by
  induction targets with
  | nil => rfl
  | cons target rest ih =>
      rw [List.map_cons, List.mem_cons, not_or] at free
      rw [latest, ih free.2, if_neg free.1]
      rfl

/-- What counts at a place of some targets is the text of one of them. -/
theorem exists_latest_eq {place : List String} (taken : place ∈ targets.map (·.1.place here)) :
    ∃ target ∈ targets, latest here targets place = some target.2.toUTF8 := by
  induction targets with
  | nil => cases taken
  | cons target rest ih =>
      rw [List.map_cons, List.mem_cons] at taken
      by_cases later : place ∈ rest.map (·.1.place here)
      · rcases ih later with ⟨last, member, counts⟩
        exact ⟨last, List.mem_cons_of_mem _ member, by rw [latest, counts, Option.some_or]⟩
      · refine ⟨target, List.mem_cons_self, ?_⟩
        rw [latest, latest_eq_none later, if_pos (taken.resolve_right later)]
        rfl

theorem exists_latest_of_mem {target : Path × String} (member : target ∈ targets) :
    ∃ last ∈ targets, latest here targets (target.1.place here) = some last.2.toUTF8 :=
  exists_latest_eq (List.mem_map_of_mem member)

/-- A tree in which each target is found, with the last text that has been put at its
place. -/
structure Holds (tree : FileTree) (here : List String) (targets : List (Path × String)) :
    Prop where
  located : ∀ target ∈ targets, tree.locate target.1 here = .ok (target.1.place here)
  contents : ∀ target ∈ targets,
    tree.contents (target.1.place here) = latest here targets (target.1.place here)

namespace Holds

/-- What is read through the path of a target is the text of a target. -/
theorem readText (holds : Holds tree here targets) {target : Path × String}
    (member : target ∈ targets) :
    ∃ last ∈ targets, latest here targets (target.1.place here) = some last.2.toUTF8 ∧
      tree.readText target.1 here = .ok last.2 := by
  rcases exists_latest_of_mem member with ⟨last, lastMember, counts⟩
  exact ⟨last, lastMember, counts,
    readText_eq_ok (holds.located target member) ((holds.contents target member).trans counts)⟩

/-- So every target can be compared. -/
theorem findSome?_obstacle? (holds : Holds tree here targets) :
    targets.findSome? (obstacle? tree here) = none := by
  rw [List.findSome?_eq_none_iff]
  intro target member
  rcases holds.readText member with ⟨last, -, -, read⟩
  rw [obstacle?, read]

/-- The first target does not matter to the others. -/
theorem tail {target : Path × String} (holds : Holds tree here (target :: targets)) :
    Holds tree here targets := by
  constructor
  case located =>
    intro other member
    exact holds.located other (List.mem_cons_of_mem _ member)
  case contents =>
    intro other member
    rcases exists_latest_of_mem member with ⟨last, -, counts⟩
    rw [holds.contents other (List.mem_cons_of_mem _ member), latest, counts, Option.some_or]

/-- With texts that all differ, the targets that do not hold theirs are those that a later
one has replaced. -/
theorem stale_eq (holds : Holds tree here targets) (distinct : (targets.map (·.2)).Nodup) :
    stale tree here targets = replaced here targets := by
  induction targets with
  | nil => rfl
  | cons target rest ih =>
      rcases target with ⟨path, text⟩
      rw [List.map_cons, List.nodup_cons] at distinct
      have others := ih holds.tail distinct.2
      rw [stale] at others
      have there := holds.contents (path, text) List.mem_cons_self
      have located := holds.located (path, text) List.mem_cons_self
      rw [stale, replaced, List.filter_cons]
      by_cases taken : path.place here ∈ rest.map (·.1.place here)
      · rw [if_pos taken]
        -- what counts is one of the other texts, and none of these is the text of this target
        rcases exists_latest_eq taken with ⟨last, member, counts⟩
        have differ : last.2 ≠ text := by
          intro same
          exact distinct.1 (List.mem_map.2 ⟨last, member, same⟩)
        rw [latest, counts, Option.some_or] at there
        have read := readText_eq_ok located there
        rw [if_pos (by simpa [read] using differ), List.map_cons, others]
      · rw [if_neg taken]
        rw [latest, latest_eq_none taken, if_pos rfl] at there
        have read := readText_eq_ok located there
        rw [if_neg (by simp [read]), others]

end Holds

/-- A run that puts all targets in place stays in its directory and leaves each of them
found, with the last text that has been put at its place. -/
theorem holds_of_carryOut_placeAll {session last : Session} {paths : List Path}
    (done : session.carryOut (placeAll targets) = (.ok paths, last)) :
    last.directory = session.directory ∧ Holds last.tree last.directory targets := by
  rcases outcomeIn_placeAll Session.disk done with
    ⟨placed, rest, behind, rfl, -, ending, placement, added, still⟩
  cases ending
  rw [List.append_nil]
  have same : last.tree.standingAt = behind.tree.standingAt := added.standingAt_eq
  have files : last.tree.contents =
      putAll session.directory session.tree.contents placed :=
    added.contents.trans placement.contents
  refine ⟨still, ?_⟩
  rw [show last.directory = session.directory from still]
  constructor
  case located =>
    intro target member
    exact locate_of_persists (Persists.of_eq same) (placement.locate target member)
  case contents =>
    intro target member
    rcases exists_latest_of_mem member with ⟨final, -, counts⟩
    rw [files, putAll_apply, counts, Option.some_or]

/-- A check behind a run that has put all targets in place names the files whose places a
later one has taken. -/
theorem carryOut_check_of_write {session last : Session} {artifacts : Artifacts} {outDir : Path}
    {config : Config} {paths : List Path}
    (distinct : [artifacts.catalogue, artifacts.stub, artifacts.wrapper].Nodup)
    (written : session.carryOut (artifacts.write outDir config) = (.ok paths, last)) :
    last.carryOut (artifacts.check outDir config) =
      (verdict (replaced session.directory (artifacts.targets outDir config)), last) := by
  rcases holds_of_carryOut_placeAll written with ⟨still, holds⟩
  rw [carryOut_check, holds.findSome?_obstacle?, holds.stale_eq distinct, still]

end Artifacts

namespace Registry

variable {registry : Registry} {config : Config} {generation : Generation} {outDir : Path}
  {session last : Session} {paths : List Path}

/-- The generated texts differ. -/
theorem generate_distinct (made : (registry.generate config).outcome = .ok generation) :
    [generation.artifacts.catalogue, generation.artifacts.stub,
      generation.artifacts.wrapper].Nodup := by
  rw [(generate_eq_ok_iff.1 made).2]
  exact Artifacts.ofModel_distinct generation.model config

/-- Behind a run that has written what is generated, a check names exactly the files whose
places a later one has taken.  So it accepts what has been written exactly if the three
paths lead to three places from the current directory. -/
theorem generate_write_check_iff (made : (registry.generate config).outcome = .ok generation)
    (written : session.carryOut (generation.artifacts.write outDir config) = (.ok paths, last)) :
    let targets := generation.artifacts.targets outDir config
    last.carryOut (generation.artifacts.check outDir config) =
        (Artifacts.verdict (Artifacts.replaced session.directory targets), last) ∧
      (last.carryOut (generation.artifacts.check outDir config) = (.ok (), last) ↔
        (targets.map (·.1.place session.directory)).Nodup) := by
  have checked := Artifacts.carryOut_check_of_write (generate_distinct made) written
  refine ⟨checked, ?_⟩
  rw [checked, Prod.mk.injEq, Artifacts.verdict_eq_ok_iff, Artifacts.replaced_eq_nil_iff,
    eq_self, and_true]

/-- Three places of one name, in the current directory, above it and at the root.  A file
of an earlier run is at one of them. -/
theorem generate_write_check_of_three_places :
    let registry : Registry := { kinds := { entries := [("Leaf", {})] } }
    let config : Config := { outputs := ⟨"lib/../nodes.js", "..//nodes.js", "/nodes.js"⟩ }
    let session : Session :=
      { tree := .directory
          [("work", .directory
            [("src", .directory [("lib", .directory []), ("nodes.js", .file "old".toUTF8)])])]
        directory := ["work", "src"] }
    ∃ generation paths last, (registry.generate config).outcome = .ok generation ∧
      session.carryOut (generation.artifacts.write .current config) = (.ok paths, last) ∧
      last.carryOut (generation.artifacts.check .current config) = (.ok (), last) := by
  intro registry config session
  have made := generate_eq_ok registry config (by decide +kernel)
  have accepted :
      (session.carryOut ((registry.generated config).artifacts.write .current config)).1 =
        .ok [⟨"./lib/../nodes.js"⟩, ⟨"./..//nodes.js"⟩, ⟨"/nodes.js"⟩] := by
    decide +kernel
  rcases written :
    session.carryOut ((registry.generated config).artifacts.write .current config) with
    ⟨outcome, last⟩
  rw [written] at accepted
  subst accepted
  refine ⟨_, _, last, made, written, (generate_write_check_iff made written).2.2 ?_⟩
  decide +kernel

/-- If the stub goes where the catalogue has gone, writing succeeds and the catalogue is out
of date at once. -/
theorem generate_write_check_of_shared_place :
    let registry : Registry := { kinds := { entries := [("Leaf", {})] } }
    let config : Config := { outputs := ⟨"nodes.js", "nodes.js", "index.js"⟩ }
    let session : Session := {}
    ∃ generation paths last, (registry.generate config).outcome = .ok generation ∧
      session.carryOut (generation.artifacts.write .current config) = (.ok paths, last) ∧
      last.carryOut (generation.artifacts.check .current config) =
        (.error (.stale [⟨"./nodes.js"⟩]), last) := by
  intro registry config session
  have made := generate_eq_ok registry config (by decide +kernel)
  have accepted :
      (session.carryOut ((registry.generated config).artifacts.write .current config)).1 =
        .ok [⟨"./nodes.js"⟩, ⟨"./nodes.js"⟩, ⟨"./index.js"⟩] := by
    decide +kernel
  rcases written :
    session.carryOut ((registry.generated config).artifacts.write .current config) with
    ⟨outcome, last⟩
  rw [written] at accepted
  subst accepted
  have places : Artifacts.replaced session.directory
      ((registry.generated config).artifacts.targets .current config) = [⟨"./nodes.js"⟩] := by
    decide +kernel
  have checked := Artifacts.carryOut_check_of_write (generate_distinct made) written
  rw [places] at checked
  exact ⟨_, _, last, made, written, checked⟩

end Registry

end NodeDecl
