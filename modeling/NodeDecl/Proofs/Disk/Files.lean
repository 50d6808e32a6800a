import NodeDecl.Proofs.Disk.Growth

/-!
# Files that come and go

A file is put where a path denotes an entry, and then the path leads to it, for as long as
the tree only grows.  A file that comes and goes again leaves a tree in which everything
stands as before; so a file that is made, filled and moved is seen at last in the place
that it is moved to, and nowhere else.
-/

namespace NodeDecl.FileTree

variable {tree next last : FileTree} {path : Path} {bytes : ByteArray}
  {here place holder : List String} {name : String} {entries : List (String × FileTree)}

/-! ## Entries -/

/-- A path that denotes an entry denotes it in a later tree. -/
theorem target_of_persists (persists : Persists tree next)
    (denotes : tree.target path here = .ok (.entry holder name false)) :
    next.target path here = .ok (.entry holder name false) := by
  rw [target_eq_entry_iff] at denotes ⊢
  rcases denotes.segments with ⟨before, trimmed, followed⟩
  have stands := persists.directory holder (standingAt_eq_directory.2 denotes.held)
  exact { denotes with
    segments := ⟨before, trimmed, follow_of_persists persists followed⟩
    held := standingAt_eq_directory.1 stands }

/-- Without slashes at the end, the last segment of a path is the name of the entry. -/
theorem Denotes.segments_eq (denotes : Denotes tree here path holder name false) :
    ∃ front, path.segments = front ++ [name.toList] ∧
      follow tree (path.origin here) front = .ok holder := by
  rcases denotes.segments with ⟨before, trimmed, followed⟩
  refine ⟨before.reverse, ?_, followed⟩
  have kept : path.segments.reverse.dropWhile (· = []) = path.segments.reverse := by
    have unslashed := of_decide_eq_false denotes.slashed_eq
    cases reversed : path.segments.reverse with
    | nil => rfl
    | cons segment rest =>
        rw [List.getLast?_eq_head?_reverse, reversed] at unslashed
        rw [List.dropWhile_cons_of_neg]
        simpa using unslashed
  rw [kept] at trimmed
  rw [← List.reverse_cons, ← trimmed, List.reverse_reverse]

/-- A path that has denoted an entry leads to it once something stands there. -/
theorem locate_of_target (denoted : tree.target path here = .ok (.entry holder name false))
    (persists : Persists tree next) (stands : (next.standingAt (path.place here)).isSome) :
    next.locate path here = .ok (path.place here) := by
  rcases target_eq_entry denoted with ⟨place, outer, held⟩
  have denotes := target_eq_entry_iff.1 denoted
  rcases denotes.segments_eq with ⟨front, segments, followed⟩
  rcases standingAt_eq_directory.1
    (persists.directory holder (standingAt_eq_directory.2 ⟨outer, held⟩)) with
    ⟨entries, heldLater⟩
  have there : (entries.lookup name).isNone = false := by
    rw [← place, standingAt, find?_append_singleton heldLater, Option.isSome_map] at stands
    simpa using stands
  have reached : follow next holder [name.toList] = .ok (holder ++ [name]) := by
    rw [follow, heldLater]
    simp only [denotes.notIdle, mt Or.inr denotes.notDots, denotes.short, String.ofList_toList,
      there, Bool.false_eq_true, if_false, follow]
  rw [locate, segments, follow_append (follow_of_persists persists followed), reached, place]
  exact Except.bind_eq_ok.2 ⟨_, denotes.checked, rfl⟩

/-! ## Files that are put -/

/-- A tree with a file that is new at the place of a path, where no directory was.  The path
leads to the file. -/
structure PutsFile (here : List String) (path : Path) (bytes : ByteArray)
    (tree next : FileTree) : Prop where
  named : path.place here ≠ []
  free : tree.standingAt (path.place here) ≠ some .directory
  standingAt_eq : next.standingAt =
    Function.update tree.standingAt (path.place here) (some (.file bytes))
  located : next.locate path here = .ok (path.place here)

namespace PutsFile

theorem persists (puts : PutsFile here path bytes tree next) : Persists tree next :=
  .of_update puts.free puts.standingAt_eq

theorem contents (puts : PutsFile here path bytes tree next) :
    next.contents = Function.update tree.contents (path.place here) (some bytes) :=
  contents_of_update puts.standingAt_eq

/-- Where the file has come from does not matter. -/
theorem of_eq {start : FileTree} (same : start.standingAt = tree.standingAt)
    (puts : PutsFile here path bytes tree next) : PutsFile here path bytes start next := by
  rcases puts with ⟨named, free, changed, located⟩
  rw [← same] at free changed
  exact ⟨named, free, changed, located⟩

theorem of_target (denotes : tree.target path here = .ok (.entry holder name false))
    (free : ∀ inner, find? (holder ++ [name]) tree ≠ some (.directory inner)) :
    PutsFile here path bytes tree (put (.file bytes) (holder ++ [name]) tree) := by
  rcases target_eq_entry denotes with ⟨place, entries, held⟩
  have notDirectory : tree.standingAt (holder ++ [name]) ≠ some .directory := by
    intro stands
    rcases standingAt_eq_directory.1 stands with ⟨inner, found⟩
    exact free inner found
  have changed : (put (.file bytes) (holder ++ [name]) tree).standingAt =
      Function.update tree.standingAt (holder ++ [name]) (some (.file bytes)) :=
    standingAt_put held notDirectory fun _ _ => rfl
  have persists := Persists.of_update notDirectory changed
  rw [place] at notDirectory changed ⊢
  constructor
  case named => simp [← place]
  case free => exact notDirectory
  case standingAt_eq => exact changed
  case located =>
    apply locate_of_target denotes (place ▸ persists)
    rw [changed, Function.update_self]
    rfl

theorem of_replaceFile (replaced : tree.replaceFile path bytes here = .ok next) :
    PutsFile here path bytes tree next := by
  rw [replaceFile] at replaced
  rcases Except.bind_eq_ok.1 replaced with ⟨target, denotes, replaced⟩
  rcases target with ⟨holder, name, _ | _⟩ | _
  · dsimp only at replaced
    split at replaced
    · cases replaced
    · next notDirectory =>
      cases replaced
      exact .of_target denotes notDirectory
  · cases replaced
  · cases replaced

theorem of_writeFile (written : tree.writeFile path bytes here = .ok next) :
    PutsFile here path bytes tree next := by
  rw [writeFile] at written
  rcases Except.bind_eq_ok.1 written with ⟨target, denotes, written⟩
  rcases target with ⟨holder, name, _ | _⟩ | _
  · dsimp only at written
    split at written
    · cases written
    · next notDirectory =>
      cases written
      exact .of_target denotes notDirectory
  · cases written
  · cases written

end PutsFile

/-- A path that denotes an entry can be written to, unless the entry is a directory. -/
theorem exists_writeFile (denotes : tree.target path here = .ok (.entry holder name false))
    (free : tree.standingAt (path.place here) ≠ some .directory) (bytes : ByteArray) :
    ∃ next, tree.writeFile path bytes here = .ok next := by
  refine ⟨put (.file bytes) (holder ++ [name]) tree, ?_⟩
  rw [writeFile]
  refine Except.bind_eq_ok.2 ⟨_, denotes, ?_⟩
  rw [← (target_eq_entry denotes).1] at free
  dsimp only
  split
  · next inner found => exact absurd (standingAt_eq_directory.2 ⟨inner, found⟩) free
  · rfl

/-! ## Files that come and go -/

/-- A tree with one more file, at the place of a path, where nothing was. -/
structure AddsFile (here : List String) (path : Path) (bytes : ByteArray)
    (tree next : FileTree) : Prop extends PutsFile here path bytes tree next where
  absent : tree.standingAt (path.place here) = none

/-- A file that has been made is new, and it can be filled. -/
theorem addsFile_of_makeFile (made : tree.makeFile path here = .ok next) :
    AddsFile here path .empty tree next ∧
      ∀ bytes, ∃ last, next.writeFile path bytes here = .ok last := by
  rw [makeFile] at made
  rcases Except.bind_eq_ok.1 made with ⟨target, denotes, made⟩
  rcases target with ⟨holder, name, _ | _⟩ | _
  · dsimp only at made
    split at made
    · cases made
    · next nothing =>
      cases made
      have puts : PutsFile here path .empty tree (put (.file .empty) (holder ++ [name]) tree) :=
        .of_target denotes (by simp [nothing])
      have absent : tree.standingAt (path.place here) = none := by
        rw [← (target_eq_entry denotes).1, standingAt, nothing, Option.map_none]
      refine ⟨⟨puts, absent⟩, ?_⟩
      apply exists_writeFile (target_of_persists puts.persists denotes)
      rw [puts.standingAt_eq, Function.update_self]
      simp
  · cases made
  · cases made

namespace AddsFile

/-- The file may be written to. -/
theorem write {others : ByteArray} (adds : AddsFile here path bytes tree next)
    (written : next.writeFile path others here = .ok last) :
    AddsFile here path others tree last := by
  have puts := PutsFile.of_writeFile written
  constructor
  case absent => exact adds.absent
  case toPutsFile =>
    constructor
    case named => exact adds.named
    case free => exact adds.free
    case standingAt_eq => rw [puts.standingAt_eq, adds.standingAt_eq, Function.update_idem]
    case located => exact puts.located

/-- The file can be taken away, and then everything stands as before. -/
theorem remove (adds : AddsFile here path bytes tree next) :
    ∃ last, next.remove path here = .ok last ∧ last.standingAt = tree.standingAt := by
  refine ⟨erase (path.place here) next, ?_, ?_⟩
  · rw [FileTree.remove]
    exact Except.bind_eq_ok.2 ⟨_, adds.located, rfl⟩
  · have stands := congrFun adds.standingAt_eq (path.place here)
    rw [Function.update_self] at stands
    have notDirectory : next.standingAt (path.place here) ≠ some .directory := by simp [stands]
    have bare : ∀ first rest, find? (path.place here ++ first :: rest) next = none :=
      fun _ => find?_append_cons_eq_none notDirectory
    have without : (erase (path.place here) next).standingAt =
        Function.update next.standingAt (path.place here) none := by
      rw [standingAt, Option.map_eq_some_iff] at stands
      rcases stands with ⟨node, found, -⟩
      rw [← List.dropLast_append_getLast adds.named] at found bare ⊢
      rw [find?_append] at found
      rcases Option.bind_eq_some_iff.1 found with ⟨outer, held, inside⟩
      cases outer with
      | file other => cases inside
      | directory entries => exact standingAt_erase held bare
    rw [without, adds.standingAt_eq, Function.update_idem, ← adds.absent, Function.update_eq_self]

/-- What comes of moving the file is as if it had been put where it is moved to right
away. -/
theorem move {source : Path} (adds : AddsFile here source bytes tree next)
    (moved : next.moveFile source path here = .ok last) : PutsFile here path bytes tree last := by
  rcases adds.remove with ⟨rest, removed, same⟩
  have stands := congrFun adds.standingAt_eq (source.place here)
  rw [Function.update_self, standingAt, Option.map_eq_some_iff] at stands
  rcases stands with ⟨node, found, isFile⟩
  cases node with
  | directory entries => cases isFile
  | file other =>
      cases isFile
      have looked : next.lookup source here = .ok (.file bytes) := by
        rw [lookup]
        exact Except.bind_eq_ok.2 ⟨_, adds.located, by rw [found]⟩
      rw [moveFile] at moved
      rcases Except.bind_eq_ok.1 moved with ⟨node, there, moved⟩
      rw [looked, Except.ok.injEq] at there
      subst there
      rcases Except.bind_eq_ok.1 moved with ⟨cleared, there, moved⟩
      rw [removed, Except.ok.injEq] at there
      subst there
      exact .of_eq same.symm (.of_replaceFile moved)

end AddsFile

theorem makeFile_of_makeFirst {paths : Nat → Path} {tries number : Nat}
    (made : tree.makeFirst paths here tries number = .ok (path, next)) :
    (∃ number, path = paths number) ∧ tree.makeFile path here = .ok next := by
  induction tries generalizing number with
  | zero => cases made
  | succ tries ih =>
      rw [makeFirst] at made
      cases attempt : tree.makeFile (paths number) here with
      | ok grown =>
          rw [attempt] at made
          cases made
          exact ⟨⟨number, rfl⟩, attempt⟩
      | error fault =>
          rw [attempt] at made
          dsimp only at made
          split at made
          · exact ih made
          · cases made

/-- A temporary file is a new file in its directory. -/
theorem makeFile_of_makeTemporary {directory : Path}
    (made : tree.makeTemporary directory here = .ok (path, next)) :
    (∃ number, path = temporaryPath directory number) ∧ tree.makeFile path here = .ok next := by
  rw [makeTemporary] at made
  exact makeFile_of_makeFirst made

/-! ## Reading -/

/-- A text in a file that a path leads to is read through the path. -/
theorem readText_eq_ok {text : String} (located : tree.locate path here = .ok place)
    (holds : tree.contents place = some text.toUTF8) : tree.readText path here = .ok text := by
  have decoded : String.fromUTF8? text.toUTF8 = some text := dif_pos text.isValidUTF8
  rw [contents] at holds
  split at holds
  · next bytes found =>
    cases holds
    have looked : tree.lookup path here = .ok (.file text.toUTF8) := by
      rw [lookup]
      exact Except.bind_eq_ok.2 ⟨place, located, by rw [found]⟩
    rw [readText]
    exact Except.bind_eq_ok.2 ⟨_, looked, by simp only [decoded]⟩
  · cases holds

end NodeDecl.FileTree
