import NodeDecl.Proofs.Disk.Contents

/-!
# Trees that grow

Making directories and putting files in place takes nothing away: what stands in the tree
stays, directories as directories.  So a path that leads somewhere leads there for good,
and a file that has been put in place is found and read through its own path as long as
the tree only grows.
-/

namespace NodeDecl.FileTree

variable {tree next last : FileTree} {path : Path}
  {here place holder : List String} {name : String} {entries : List (String × FileTree)}

/-! ## Directories that are added -/

/-- A tree with some new directories, each at one of some places. -/
def AddsDirectories (places : List (List String)) (tree next : FileTree) : Prop :=
  ∀ place, next.standingAt place = tree.standingAt place ∨
    place ∈ places ∧ tree.standingAt place = none ∧ next.standingAt place = some .directory

namespace AddsDirectories

variable {places : List (List String)}

theorem refl (places : List (List String)) (tree : FileTree) : AddsDirectories places tree tree :=
  fun _ => .inl rfl

theorem of_eq (same : next.standingAt = tree.standingAt) : AddsDirectories places tree next :=
  fun place => .inl (congrFun same place)

theorem trans (first : AddsDirectories places tree next)
    (second : AddsDirectories places next last) : AddsDirectories places tree last := by
  intro place
  rcases first place with same | ⟨member, absent, made⟩
  · rw [← same]
    exact second place
  · rcases second place with same | ⟨-, occupied, -⟩
    · exact .inr ⟨member, absent, same.trans made⟩
    · rw [made] at occupied
      cases occupied

theorem of_makeDirectory (made : tree.makeDirectory path here = .ok next)
    (member : path.place here ∈ places) : AddsDirectories places tree next := by
  rcases standingAt_of_makeDirectory made with ⟨absent, changed⟩
  intro place
  rw [changed, Function.update_apply]
  split
  · next here =>
    subst here
    exact .inr ⟨member, absent, rfl⟩
  · exact .inl rfl

/-- Where nothing is, nothing has been. -/
theorem absent (added : AddsDirectories places tree next)
    (nothing : next.standingAt place = none) : tree.standingAt place = none := by
  rcases added place with same | ⟨-, before, -⟩
  · exact same.symm.trans nothing
  · exact before

/-- New directories change no file. -/
theorem contents (added : AddsDirectories places tree next) : next.contents = tree.contents := by
  funext place
  rw [contents_eq, contents_eq]
  rcases added place with same | ⟨-, absent, made⟩
  · rw [same]
  · rw [absent, made]
    rfl

/-- With no place for a new directory, nothing changes. -/
theorem standingAt_eq (added : AddsDirectories [] tree next) :
    next.standingAt = tree.standingAt := by
  funext place
  rcases added place with same | ⟨absurdity, -⟩
  · exact same
  · cases absurdity

end AddsDirectories

/-! ## What stays -/

/-- Whatever stands in a tree stands in a later one too, and directories are still
directories. -/
structure Persists (tree next : FileTree) : Prop where
  directory : ∀ place, tree.standingAt place = some .directory →
    next.standingAt place = some .directory
  present : ∀ place, (tree.standingAt place).isSome → (next.standingAt place).isSome

namespace Persists

theorem of_eq (same : next.standingAt = tree.standingAt) : Persists tree next := by
  constructor
  · intro place stands
    rwa [same]
  · intro place stands
    rwa [same]

theorem trans (first : Persists tree next) (second : Persists next last) : Persists tree last where
  directory place stands := second.directory place (first.directory place stands)
  present place stands := second.present place (first.present place stands)

theorem of_addsDirectories {places : List (List String)}
    (added : AddsDirectories places tree next) : Persists tree next := by
  constructor
  · intro place stands
    rcases added place with same | ⟨-, -, made⟩
    · rw [same, stands]
    · exact made
  · intro place stands
    rcases added place with same | ⟨-, -, made⟩
    · rwa [same]
    · rw [made]
      rfl

theorem of_update {what : Standing} (free : tree.standingAt place ≠ some .directory)
    (changed : next.standingAt = Function.update tree.standingAt place (some what)) :
    Persists tree next := by
  constructor
  · intro other stands
    have elsewhere : other ≠ place := by
      rintro rfl
      exact free stands
    rw [changed, Function.update_of_ne elsewhere, stands]
  · intro other stands
    rw [changed, Function.update_apply]
    split
    · rfl
    · exact stands

end Persists

/-! ## Paths that lead somewhere -/

/-- An entry of a directory is what stands at its place. -/
theorem find?_append_singleton (held : find? place tree = some (.directory entries)) :
    find? (place ++ [name]) tree = entries.lookup name := by
  rw [find?_append, held, Option.bind_some, find?]
  cases entries.lookup name <;> rfl

/-- Segments that can be followed can be followed in a later tree. -/
theorem follow_of_persists (persists : Persists tree next) {segments : List (List Char)}
    {reached : List String} (followed : follow tree place segments = .ok reached) :
    follow next place segments = .ok reached := by
  induction segments generalizing place with
  | nil => exact followed
  | cons segment rest ih =>
      rw [follow] at followed ⊢
      split at followed
      · cases followed
      · cases followed
      · next entries found =>
        rcases standingAt_eq_directory.1
          (persists.directory place (standingAt_eq_directory.2 ⟨entries, found⟩)) with
          ⟨later, foundLater⟩
        -- an entry that was there is there still
        have present := persists.present (place ++ [String.ofList segment])
        rw [standingAt, standingAt, find?_append_singleton found,
          find?_append_singleton foundLater, Option.isSome_map, Option.isSome_map] at present
        rw [foundLater]
        dsimp only at followed ⊢
        split_ifs at followed ⊢ with idle parent long gone missing
        · exact ih followed
        · exact ih followed
        · rw [Bool.not_eq_true, Option.isNone_eq_false_iff] at missing
          rw [Option.isNone_iff_eq_none.1 gone] at present
          exact absurd (present missing) (by decide)
        · exact ih followed

/-- A path that leads somewhere leads there in a later tree. -/
theorem locate_of_persists (persists : Persists tree next)
    (located : tree.locate path here = .ok place) : next.locate path here = .ok place := by
  rw [locate] at located ⊢
  rcases Except.bind_eq_ok.1 located with ⟨_, checked, followed⟩
  exact Except.bind_eq_ok.2 ⟨_, checked, follow_of_persists persists followed⟩

theorem follow_append {front back : List (List Char)} {reached : List String}
    (followed : follow tree place front = .ok reached) :
    follow tree place (front ++ back) = follow tree reached back := by
  induction front generalizing place with
  | nil =>
      cases followed
      rfl
  | cons segment rest ih =>
      rw [List.cons_append, follow]
      rw [follow] at followed
      split at followed
      · cases followed
      · cases followed
      · dsimp only at followed ⊢
        split_ifs at followed ⊢
        · exact ih followed
        · exact ih followed
        · exact ih followed

end NodeDecl.FileTree
