import NodeDecl.Proofs.Artifact.Checking

/-!
# The verdict of a check

What a check says is read off the tree.  A target is current if its path leads to a file
with the bytes of its text; it can be compared if there is such a file, a file with another
text, or nothing.  The first target that cannot be compared decides alone, whatever stands
in front of it; without one, the verdict is the list of targets that are not current.  If
the list is empty, writing the same targets has nothing to change.
-/

namespace NodeDecl

open Session FileTree

namespace FileTree

variable {tree : FileTree} {here : List String} {path : Path} {text : String} {fault : Fault}

/-- Why there is no text where a path leads: nothing is reached, or a directory is, or a
file whose bytes are no text. -/
inductive Unreadable (tree : FileTree) (here : List String) (path : Path) : Fault → Prop
  | unreached {fault : Fault} (stops : tree.lookup path here = .error fault) :
      Unreadable tree here path fault
  | directory {entries : List (String × FileTree)}
      (there : tree.lookup path here = .ok (.directory entries)) :
      Unreadable tree here path .isDirectory
  | noText {bytes : ByteArray} (there : tree.lookup path here = .ok (.file bytes))
      (undecodable : ∀ text : String, text.toUTF8 ≠ bytes) : Unreadable tree here path .notText

/-- Bytes are decoded as the text that they encode. -/
theorem fromUTF8?_eq_some_iff {bytes : ByteArray} :
    String.fromUTF8? bytes = some text ↔ text.toUTF8 = bytes := by
  rw [String.fromUTF8?]
  split
  · next valid =>
    rw [Option.some.injEq]
    constructor
    · intro same
      rw [← same]
      rfl
    · intro encodes
      exact String.toByteArray_inj.1 encodes.symm
  · next invalid =>
    constructor
    · intro absurdity
      cases absurdity
    · intro encodes
      exact absurd (encodes ▸ text.isValidUTF8) invalid

theorem readText_of_file {bytes : ByteArray} (there : tree.lookup path here = .ok (.file bytes)) :
    tree.readText path here =
      match String.fromUTF8? bytes with
      | some text => .ok text
      | none => .error .notText := by
  rw [readText, there]
  rfl

theorem readText_eq_ok_iff :
    tree.readText path here = .ok text ↔ tree.lookup path here = .ok (.file text.toUTF8) := by
  constructor
  · intro read
    rcases Except.bind_eq_ok.1 read with ⟨node, there, opened⟩
    cases node with
    | directory entries => cases opened
    | file bytes =>
        rw [readText_of_file there] at read
        split at read
        · next decoded =>
          cases read
          rw [there, fromUTF8?_eq_some_iff.1 decoded]
        · cases read
  · intro there
    simp only [readText_of_file there, fromUTF8?_eq_some_iff.2 rfl]

theorem readText_eq_error_iff :
    tree.readText path here = .error fault ↔ Unreadable tree here path fault := by
  constructor
  · intro read
    cases there : tree.lookup path here with
    | error stopped =>
        rw [readText, there] at read
        cases read
        exact .unreached there
    | ok node =>
        cases node with
        | directory entries =>
            rw [readText, there] at read
            cases read
            exact .directory there
        | file bytes =>
            rw [readText_of_file there] at read
            split at read
            · cases read
            · next undecoded =>
              cases read
              refine .noText there fun text encodes => ?_
              rw [fromUTF8?_eq_some_iff.2 encodes] at undecoded
              cases undecoded
  · intro unreadable
    cases unreadable with
    | unreached stops =>
        rw [readText, stops]
        rfl
    | directory there =>
        rw [readText, there]
        rfl
    | @noText bytes there undecodable =>
        have undecoded : String.fromUTF8? bytes = none := by
          rw [Option.eq_none_iff_forall_not_mem]
          intro text decoded
          exact undecodable text (fromUTF8?_eq_some_iff.1 decoded)
        simp only [readText_of_file there, undecoded]

/-- The file that a path leads to is at its place. -/
theorem contents_of_lookup {bytes : ByteArray} (there : tree.lookup path here = .ok (.file bytes)) :
    tree.contents (path.place here) = some bytes := by
  rcases Except.bind_eq_ok.1 there with ⟨place, located, found⟩
  rcases Except.bind_eq_ok.1 located with ⟨_, -, followed⟩
  rw [show path.place here = place from (follow_eq_ok followed).symm, contents]
  split at found
  · next node stands =>
    cases found
    rw [stands]
  · cases found

end FileTree

namespace Artifacts

variable {tree : FileTree} {here : List String} {targets : List (Path × String)}
  {target : Path × String} {outcome : Except Failure Unit}

/-- A target whose file has exactly the bytes of its text. -/
def IsCurrent (tree : FileTree) (here : List String) (target : Path × String) : Prop :=
  tree.lookup target.1 here = .ok (.file target.2.toUTF8)

instance : Decidable (IsCurrent tree here target) :=
  decidable_of_iff _ readText_eq_ok_iff

/-- A target whose file can be compared with its text.  A file that is not there can be. -/
inductive Comparable (tree : FileTree) (here : List String) (target : Path × String) : Prop
  | current (same : IsCurrent tree here target)
  | missing (absent : tree.lookup target.1 here = .error .noSuchEntry)
  | differing (text : String) (there : tree.lookup target.1 here = .ok (.file text.toUTF8))
      (differ : text ≠ target.2)

/-- What a check may say about some targets. -/
inductive Judgement (tree : FileTree) (here : List String) (targets : List (Path × String)) :
    Except Failure Unit → Prop
  | upToDate (current : ∀ target ∈ targets, IsCurrent tree here target) :
      Judgement tree here targets (.ok ())
  /-- The first target that cannot be read for another reason than its absence. -/
  | unreadable {before after : List (Path × String)} {target : Path × String} {fault : Fault}
      (whole : targets = before ++ target :: after)
      (comparable : ∀ earlier ∈ before, Comparable tree here earlier)
      (unreadable : Unreadable tree here target.1 fault) (reason : fault ≠ .noSuchEntry) :
      Judgement tree here targets (.error (.io target.1 fault))
  /-- The targets that are missing or differ, one of them at least. -/
  | outdated (comparable : ∀ target ∈ targets, Comparable tree here target)
      (notAll : ¬ ∀ target ∈ targets, IsCurrent tree here target) :
      Judgement tree here targets
        (.error (.stale ((targets.filter fun target => ¬ IsCurrent tree here target).map (·.1))))

theorem obstacle?_eq_some_iff {failure : Failure} :
    obstacle? tree here target = some failure ↔
      ∃ fault, Unreadable tree here target.1 fault ∧ fault ≠ .noSuchEntry ∧
        failure = .io target.1 fault := by
  simp only [obstacle?, ← readText_eq_error_iff]
  cases tree.readText target.1 here with
  | ok text => simp
  | error fault => cases fault <;> simp [eq_comm]

theorem obstacle?_eq_none_iff :
    obstacle? tree here target = none ↔ Comparable tree here target := by
  constructor
  · intro free
    rw [obstacle?] at free
    split at free
    · next text read =>
      have there := readText_eq_ok_iff.1 read
      by_cases same : text = target.2
      · subst same
        exact .current there
      · exact .differing text there same
    · next read =>
      rw [readText_eq_error_iff] at read
      cases read with
      | unreached stops => exact .missing stops
    · cases free
  · intro comparable
    rw [obstacle?]
    cases comparable with
    | current same => rw [readText_eq_ok_iff.2 same]
    | missing absent => rw [readText_eq_error_iff.2 (.unreached absent)]
    | differing text there differ => rw [readText_eq_ok_iff.2 there]

/-- The targets that are compared up to the end. -/
theorem findSome?_obstacle?_eq_none_iff :
    targets.findSome? (obstacle? tree here) = none ↔
      ∀ target ∈ targets, Comparable tree here target := by
  simp only [List.findSome?_eq_none_iff, obstacle?_eq_none_iff]

theorem stale_eq_filter (tree : FileTree) (here : List String) (targets : List (Path × String)) :
    stale tree here targets =
      (targets.filter fun target => ¬ IsCurrent tree here target).map (·.1) := by
  rw [stale]
  congr 2
  funext target
  exact decide_eq_decide.2 (not_congr readText_eq_ok_iff)

theorem stale_eq_nil_iff :
    stale tree here targets = [] ↔ ∀ target ∈ targets, IsCurrent tree here target := by
  simp [stale_eq_filter, List.filter_eq_nil_iff]

theorem verdict_of_ne_nil {paths : List Path} (nonempty : paths ≠ []) :
    verdict paths = .error (.stale paths) := by
  cases paths with
  | nil => exact absurd rfl nonempty
  | cons path paths => rfl

/-- Exactly one thing is to be said about some targets: the first obstacle, or else the
verdict on those that are not current. -/
theorem judgement_iff :
    Judgement tree here targets outcome ↔
      (match targets.findSome? (obstacle? tree here) with
        | some failure => .error failure
        | none => verdict (stale tree here targets)) = outcome := by
  constructor
  · intro judged
    cases judged with
    | upToDate current =>
        have free := findSome?_obstacle?_eq_none_iff.2 fun target member =>
          .current (current target member)
        simp only [free, stale_eq_nil_iff.2 current, verdict]
    | unreadable whole comparable unreadable reason =>
        have first := List.findSome?_eq_some_iff.2 ⟨_, _, _, whole,
          obstacle?_eq_some_iff.2 ⟨_, unreadable, reason, rfl⟩,
          fun earlier member => obstacle?_eq_none_iff.2 (comparable earlier member)⟩
        simp only [first]
    | outdated comparable notAll =>
        have listed : stale tree here targets ≠ [] := by
          rw [ne_eq, stale_eq_nil_iff]
          exact notAll
        simp only [findSome?_obstacle?_eq_none_iff.2 comparable]
        rw [verdict_of_ne_nil listed, stale_eq_filter]
  · intro said
    subst said
    cases found : targets.findSome? (obstacle? tree here) with
    | some failure =>
        rcases List.findSome?_eq_some_iff.1 found with ⟨before, target, after, whole, stops, free⟩
        rcases obstacle?_eq_some_iff.1 stops with ⟨fault, unreadable, reason, rfl⟩
        exact .unreadable whole
          (fun earlier member => obstacle?_eq_none_iff.1 (free earlier member)) unreadable reason
    | none =>
        rw [findSome?_obstacle?_eq_none_iff] at found
        by_cases current : ∀ target ∈ targets, IsCurrent tree here target
        · simp only [stale_eq_nil_iff.2 current, verdict]
          exact .upToDate current
        · dsimp only
          rw [verdict_of_ne_nil (mt stale_eq_nil_iff.1 current), stale_eq_filter]
          exact .outdated found current

/-- A place that counts among some targets is the place of one of them, with its text. -/
theorem exists_of_latest {place : List String} {bytes : ByteArray}
    (counts : latest here targets place = some bytes) :
    ∃ target ∈ targets, target.1.place here = place ∧ target.2.toUTF8 = bytes := by
  induction targets with
  | nil => cases counts
  | cons target rest ih =>
      rw [latest, Option.or_eq_some_iff] at counts
      rcases counts with later | ⟨-, here⟩
      · rcases ih later with ⟨last, member, there⟩
        exact ⟨last, List.mem_cons_of_mem _ member, there⟩
      · split at here
        · next same =>
          cases here
          exact ⟨target, List.mem_cons_self, same.symm, rfl⟩
        · cases here

/-- Writing targets that are current changes no file, however it ends. -/
theorem contents_of_carryOut_placeAll {session last : Session}
    {outcome : Except Failure (List Path)}
    (current : ∀ target ∈ targets, IsCurrent session.tree session.directory target)
    (done : session.carryOut (placeAll targets) = (outcome, last)) :
    last.tree.contents = session.tree.contents := by
  rcases carryOut_placeAll done with ⟨placed, rest, rfl, -, files⟩
  rw [files, putAll_eq_self_iff]
  intro place bytes counts
  rcases exists_of_latest counts with ⟨target, member, rfl, rfl⟩
  exact contents_of_lookup (current target (List.mem_append_left _ member))

/-- A check changes nothing, and says exactly what is to be said about the targets: it
accepts them if each leads to a file with the bytes of its text, stops at the first that
cannot be read although it is there, and otherwise names those that are missing or differ.
Behind an accepted check, writing changes no file. -/
theorem check_judgement (session : Session) (artifacts : Artifacts) (outDir : Path)
    (config : Config) :
    let targets := artifacts.targets outDir config
    let checked := session.carryOut (artifacts.check outDir config)
    checked.2 = session ∧
      (∀ outcome, checked.1 = outcome ↔ Judgement session.tree session.directory targets outcome) ∧
      (checked.1 = .ok () ↔
        ∀ target ∈ targets,
          session.tree.lookup target.1 session.directory = .ok (.file target.2.toUTF8)) ∧
      (checked.1 = .ok () → ∀ paths last,
        session.carryOut (artifacts.write outDir config) = (.ok paths, last) →
          last.tree.contents = session.tree.contents) := by
  intro targets checked
  have said : ∀ outcome, checked.1 = outcome ↔
      Judgement session.tree session.directory targets outcome := by
    intro outcome
    have runs := congrArg Prod.fst (carryOut_check session artifacts outDir config)
    rw [judgement_iff]
    exact Eq.congr_left runs
  have accepted : checked.1 = .ok () ↔
      ∀ target ∈ targets, IsCurrent session.tree session.directory target := by
    rw [said]
    constructor
    · intro judged
      cases judged with
      | upToDate current => exact current
    · intro current
      exact .upToDate current
  refine ⟨?_, said, accepted, ?_⟩
  · rw [show checked = _ from carryOut_check session artifacts outDir config]
  · intro passed paths last written
    exact contents_of_carryOut_placeAll (accepted.1 passed) written

/-- Three files that are up to date, one of them reached through the directory above it. -/
theorem check_judgement_of_current_files :
    let session : Session :=
      { tree := .directory
          [("index.js", .file "wrapper".toUTF8), ("lib", .directory []),
            ("nodes.js", .file "nodes".toUTF8), ("stub.js", .file "stub".toUTF8)] }
    let artifacts : Artifacts := { catalogue := "nodes", stub := "stub", wrapper := "wrapper" }
    let config : Config := { outputs := ⟨"nodes.js", "lib/../stub.js", "index.js"⟩ }
    session.carryOut (artifacts.check .current config) = (.ok (), session) ∧
      ∃ paths last, session.carryOut (artifacts.write .current config) = (.ok paths, last) ∧
        last.tree.contents = session.tree.contents := by
  intro session artifacts config
  rcases check_judgement session artifacts .current config with ⟨same, -, -, kept⟩
  have passed : (session.carryOut (artifacts.check .current config)).1 = .ok () := by
    decide +kernel
  have accepted : (session.carryOut (artifacts.write .current config)).1 =
      .ok [⟨"./nodes.js"⟩, ⟨"./lib/../stub.js"⟩, ⟨"./index.js"⟩] := by
    decide +kernel
  -- From here on it does not matter which files these are.
  clear_value session artifacts config
  rcases written : session.carryOut (artifacts.write .current config) with ⟨outcome, last⟩
  rw [written] at accepted
  subst accepted
  exact ⟨Prod.ext passed same, _, last, rfl, kept passed _ last written⟩

/-- A directory stands where the stub should be: it is reported, and the catalogue, which
is missing, is not. -/
example :
    let session : Session := { tree := .directory [("stub.js", .directory [])] }
    let artifacts : Artifacts := { catalogue := "nodes", stub := "stub", wrapper := "wrapper" }
    let config : Config := { outputs := ⟨"nodes.js", "stub.js", "index.js"⟩ }
    (session.carryOut (artifacts.check .current config)).1 =
      .error (.io ⟨"./stub.js"⟩ .isDirectory) := by
  decide +kernel

end Artifacts

end NodeDecl
