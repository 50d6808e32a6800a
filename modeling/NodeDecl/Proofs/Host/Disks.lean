import NodeDecl.Proofs.Disk.Files
import NodeDecl.Proofs.Host.Execution

/-!
# Machines with a disk

A session refuses a request only if its tree does.  A real machine may refuse any request
at any time, for want of space or of a permission.  What is shown of files and directories
holds for all machines that do what they grant and leave everything as it is when they
refuse; sessions are the ones that never refuse without need.
-/

namespace NodeDecl

variable {σ α β γ : Type}

/-- A path that leads to a name in the directory that another path leads to, however it is
spelled. -/
def Path.IsIn (path directory : Path) (here : List String) : Prop :=
  ∃ name, path.place here = directory.place here ++ [name]

/-- The path may be absolute where the directory is not. -/
example : Path.IsIn ⟨"/work/lib/.tmpA"⟩ ⟨"./lib"⟩ ["work"] :=
  ⟨".tmpA", by decide +kernel⟩

/-- A service that changes the tree of a state as a request says that is made in the current
directory, or is refused and leaves it as it is. -/
def Serves (tree : σ → FileTree) (directory : σ → List String)
    (request : FileTree → List String → Except Fault FileTree)
    (service : StateM σ (Except Fault Unit)) : Prop :=
  ∀ state,
    match Id.run (service.run state) with
    | (.ok (), later) => request (tree state) (directory state) = .ok (tree later)
    | (.error _, later) => tree later = tree state

/-- A machine on which putting files in place keeps what an observation shows, whatever is
asked of it. -/
structure Stays [Host (StateM σ)] (observe : σ → γ) : Prop where
  makeDirectory : ∀ path, Keeps observe (Host.makeDirectory path : StateM σ (Except Fault Unit))
  makeTemporary : ∀ path, Keeps observe (Host.makeTemporary path : StateM σ (Except Fault Path))
  fill : ∀ path text, Keeps observe (Host.fill path text : StateM σ (Except Fault Unit))
  moveFile : ∀ source path,
    Keeps observe (Host.moveFile source path : StateM σ (Except Fault Unit))
  discard : ∀ path, Keeps observe (Host.discard path : StateM σ Unit)
  isDirectory : ∀ path, Keeps observe (Host.isDirectory path : StateM σ Bool)
  log : ∀ entry, Keeps observe (Host.log entry : StateM σ Unit)

/-- A machine whose state shows a directory tree and the place of a current directory in it.
A request that is refused, for whatever reason, changes nothing; only a file that cannot be
filled may be left with anything in it.  Which name a temporary file gets and how its path
is spelled is up to the machine, but it is a new file in the directory that was asked for. -/
structure Disk (σ : Type) [Host (StateM σ)] where
  tree : σ → FileTree
  directory : σ → List String
  stays : Stays directory
  makeDirectory : ∀ path, Serves tree directory (·.makeDirectory path ·) (Host.makeDirectory path)
  makeTemporary : ∀ path state,
    match Id.run ((Host.makeTemporary path : StateM σ _).run state) with
    | (.ok temporary, later) =>
        temporary.IsIn path (directory state) ∧
          (tree state).makeFile temporary (directory state) = .ok (tree later)
    | (.error _, later) => tree later = tree state
  fill : ∀ path text state,
    match Id.run ((Host.fill path text : StateM σ _).run state) with
    | (.ok (), later) =>
        (tree state).writeFile path text.toUTF8 (directory state) = .ok (tree later)
    | (.error _, later) =>
        tree later = tree state ∨
          ∃ bytes, (tree state).writeFile path bytes (directory state) = .ok (tree later)
  moveFile : ∀ source path,
    Serves tree directory (·.moveFile source path ·) (Host.moveFile source path)
  discard : ∀ path state next, (tree state).remove path (directory state) = .ok next →
    tree (Id.run ((Host.discard path : StateM σ Unit).run state)).2 = next
  isDirectory : ∀ path, Keeps tree (Host.isDirectory path : StateM σ Bool)
  log : ∀ entry, Keeps tree (Host.log entry : StateM σ Unit)

/-- A machine on which a file that can be written to can be filled. -/
def Disk.Roomy [Host (StateM σ)] (disk : Disk σ) : Prop :=
  ∀ path text state next,
    (disk.tree state).writeFile path text.toUTF8 (disk.directory state) = .ok next →
      (Id.run ((Host.fill path text : StateM σ _).run state)).1 = .ok ()

namespace Session

/-- What a session changes, it changes as its tree does. -/
theorem serves_changeHere (request : FileTree → List String → Except Fault FileTree) :
    Serves Session.tree Session.directory request (changeHere request) := by
  intro session
  rw [run_changeHere]
  cases granted : request session.tree session.directory with
  | ok tree => rfl
  | error fault => rfl

/-- A change of the tree leaves the current directory. -/
theorem keeps_changeHere (request : FileTree → List String → Except Fault FileTree) :
    Keeps Session.directory (changeHere request) := by
  intro session
  rw [run_changeHere]
  cases request session.tree session.directory with
  | ok tree => rfl
  | error fault => rfl

theorem run_makeTemporary (path : Path) (session : Session) :
    Id.run ((makeTemporary path).run session) =
      match session.tree.makeTemporary path session.directory with
      | .ok (temporary, tree) => (.ok temporary, { session with tree })
      | .error fault => (.error fault, session) := by
  cases granted : session.tree.makeTemporary path session.directory with
  | ok made => simp [makeTemporary, granted]
  | error fault => simp [makeTemporary, granted]

/-- What a session puts in place does not move its current directory. -/
theorem stays : Stays Session.directory where
  makeDirectory _ := keeps_changeHere _
  makeTemporary path session := by
    change (Id.run ((makeTemporary path).run session)).2.directory = session.directory
    rw [run_makeTemporary]
    cases session.tree.makeTemporary path session.directory with
    | ok made => rfl
    | error fault => rfl
  fill _ _ := keeps_changeHere _
  moveFile _ _ := keeps_changeHere _
  discard _ := (keeps_changeHere _).map _
  isDirectory _ := keeps_inspect _ _
  log _ _ := rfl

/-- The name of a temporary file is one segment. -/
theorem isIn_temporaryPath (directory : Path) (number : Nat) (here : List String) :
    (FileTree.temporaryPath directory number).IsIn directory here := by
  have digits : ∀ c ∈ number.repr.toList, c.isDigit = true := by
    rw [Nat.toList_repr]
    exact fun c member => Nat.isDigit_of_mem_toDigits (by decide) (by decide) member
  refine ⟨_, Path.place_join directory here ?_ ?_ ?_⟩
  · rw [String.toList_append, List.mem_append, not_or]
    exact ⟨by decide, fun slash => absurd (digits _ slash) (by decide)⟩
  · rw [String.toList_append]
    rfl
  · rw [String.toList_append]
    exact fun dots => by simp at dots

/-- A session is a machine with a disk. -/
def disk : Disk Session where
  tree := Session.tree
  directory := Session.directory
  stays := stays
  makeDirectory _ := serves_changeHere _
  makeTemporary path session := by
    have run : Id.run ((Host.makeTemporary path : StateM Session _).run session) = _ :=
      run_makeTemporary path session
    rw [run]
    cases granted : session.tree.makeTemporary path session.directory with
    | ok made =>
        rcases FileTree.makeFile_of_makeTemporary granted with ⟨⟨number, named⟩, fresh⟩
        exact ⟨named ▸ isIn_temporaryPath path number session.directory, fresh⟩
    | error fault => rfl
  fill path text session := by
    have run : Id.run ((Host.fill path text : StateM Session _).run session) = _ :=
      run_changeHere (·.writeFile path text.toUTF8 ·) session
    rw [run]
    cases granted : session.tree.writeFile path text.toUTF8 session.directory with
    | ok tree => rfl
    | error fault => exact .inl rfl
  moveFile _ _ := serves_changeHere _
  discard path session next removed := by
    have run : (Id.run ((Host.discard path : StateM Session Unit).run session)).2 =
      (Id.run ((changeHere (·.remove path ·)).run session)).2 := rfl
    rw [run, run_changeHere, removed]
  isDirectory _ := keeps_inspect _ _
  log _ _ := rfl

@[simp] theorem disk_tree (session : Session) : disk.tree session = session.tree :=
  rfl

@[simp] theorem disk_directory (session : Session) :
    disk.directory session = session.directory :=
  rfl

/-- A session has room for every file. -/
theorem disk_roomy : disk.Roomy := by
  intro path text session next written
  have run : Id.run ((Host.fill path text : StateM Session _).run session) = _ :=
    run_changeHere (·.writeFile path text.toUTF8 ·) session
  rw [run, show session.tree.writeFile path text.toUTF8 session.directory = .ok next from written]

end Session

namespace Disk

variable [Host (StateM σ)] (disk : Disk σ) {places : List (List String)} {here : List String}
  {state later : σ} {path : Path} {text : String}

/-! ## Making directories -/

/-- A computation that adds directories at some places when it runs in a current directory.
It does nothing else to the tree, and stays in the directory. -/
def Adds (here : List String) (places : List (List String)) (program : StateM σ α) : Prop :=
  ∀ state, disk.directory state = here →
    FileTree.AddsDirectories places (disk.tree state)
        (disk.tree (Id.run (program.run state)).2) ∧
      disk.directory (Id.run (program.run state)).2 = here

variable {disk}

theorem adds_pure (value : α) : disk.Adds here places (pure value) :=
  fun _ inside => ⟨.refl _ _, inside⟩

theorem Adds.bind {first : StateM σ α} {next : α → StateM σ β}
    (addsFirst : disk.Adds here places first)
    (addsNext : ∀ value, disk.Adds here places (next value)) :
    disk.Adds here places (first >>= next) := by
  intro state inside
  rcases addsFirst state inside with ⟨added, still⟩
  rcases addsNext _ _ still with ⟨more, last⟩
  exact ⟨added.trans more, last⟩

theorem adds_isDirectory (path : Path) :
    disk.Adds here places (Host.isDirectory path : StateM σ Bool) :=
  fun state inside =>
    ⟨.of_eq (congrArg _ (disk.isDirectory path state)),
      (disk.stays.isDirectory path state).trans inside⟩

theorem adds_makeDirectory (member : path.place here ∈ places) :
    disk.Adds here places (Host.makeDirectory path : StateM σ (Except Fault Unit)) := by
  intro state inside
  refine ⟨?_, (disk.stays.makeDirectory path state).trans inside⟩
  have served := disk.makeDirectory path state
  rw [inside] at served
  split at served
  · next later done =>
    rw [done]
    exact .of_makeDirectory served member
  · next later done =>
    rw [done, served]
    exact .refl _ _

theorem adds_ensureDirectory (member : path.place here ∈ places) :
    disk.Adds here places (Host.ensureDirectory path : StateM σ (Except Fault Unit)) := by
  apply (adds_makeDirectory member).bind
  intro outcome
  cases outcome with
  | ok _ => exact adds_pure _
  | error fault =>
      dsimp only
      split
      · apply (adds_isDirectory _).bind
        intro found
        split <;> exact adds_pure _
      · exact adds_pure _

theorem adds_ensureAll (paths : List Path) (members : ∀ path ∈ paths, path.place here ∈ places) :
    disk.Adds here places (Host.ensureAll paths : StateM σ (Except Fault Unit)) := by
  induction paths with
  | nil => exact adds_pure _
  | cons path above ih =>
      rw [List.forall_mem_cons] at members
      apply (adds_ensureDirectory members.1).bind
      intro outcome
      split
      · apply (ih members.2).bind
        intro reached
        split
        · exact adds_ensureDirectory members.1
        · exact adds_pure _
      · exact adds_pure _

/-- Making a directory makes it and directories above it at most. -/
theorem adds_makeDirectories (disk : Disk σ) (here : List String) (path : Path) :
    disk.Adds here (path.ancestors.map (·.place here))
      (Host.makeDirectories path : StateM σ (Except Fault Unit)) :=
  adds_ensureAll path.ancestors fun _ member => List.mem_map_of_mem member

end Disk

end NodeDecl
