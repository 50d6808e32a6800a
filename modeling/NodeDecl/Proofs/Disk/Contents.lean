import Mathlib.Data.List.Induction
import Mathlib.Logic.Function.Basic
import NodeDecl.Disk.Tree
import NodeDecl.Proofs.Bindings

/-!
# What a tree holds

A tree is looked at as a map from places to what stands there, a directory or a file with
its bytes.  Making a directory and putting a file in place change this map at one place,
which is known from the path and the current directory alone.  In the map of the files
only, directories are invisible.
-/

namespace NodeDecl

/-- One step after the other succeeds if both do. -/
theorem Except.bind_eq_ok {ε α β : Type} {first : Except ε α} {next : α → Except ε β}
    {result : β} :
    (first >>= next) = .ok result ↔ ∃ value, first = .ok value ∧ next value = .ok result := by
  cases first with
  | error fault => simp [bind, Except.bind]
  | ok value => simp [bind, Except.bind]

namespace Path

/-- The place that a segment leads to from another one. -/
def step (place : List String) (segment : List Char) : List String :=
  if isIdle segment then place
  else if segment = ['.', '.'] then place.dropLast
  else place ++ [String.ofList segment]

/-- The place that a path leads to from a current directory, read off its segments. -/
def place (path : Path) (here : List String) : List String :=
  path.segments.foldl step (path.origin here)

/-- A name that is joined to a path leads to this name in the place of the path. -/
theorem place_join (path : Path) (here : List String) {name : String}
    (plain : '/' ∉ name.toList) (proper : isIdle name.toList = false)
    (notParent : name.toList ≠ ['.', '.']) :
    (path.join ⟨name⟩).place here = path.place here ++ [name] := by
  have relative : isAbsolute ⟨name⟩ = false := by
    rw [isAbsolute, decide_eq_false_iff_not]
    exact fun slash => plain (List.mem_of_head? slash)
  have stepped (start : List String) : step start name.toList = start ++ [name] := by
    simp [step, proper, notParent]
  cases given : path.text.toList with
  | nil =>
      have empty : path.text.isEmpty = true := by
        rw [String.isEmpty_iff, ← String.toList_eq_nil_iff, given]
      rw [join, if_pos (by rw [empty, Bool.or_true]), place, place, segments, segments, origin,
        origin, relative, isAbsolute, given, splitSlash_of_not_mem plain]
      exact stepped here
  | cons first rest =>
      have nonempty : path.text.isEmpty = false := by
        rw [Bool.eq_false_iff, ne_eq, String.isEmpty_iff, ← String.toList_eq_nil_iff, given]
        exact List.cons_ne_nil _ _
      have absolute (more : String) : isAbsolute ⟨path.text ++ more⟩ = path.isAbsolute := by
        rw [isAbsolute, isAbsolute, String.toList_append, given]
        rfl
      rw [join, relative, nonempty, Bool.or_false, if_neg Bool.false_ne_true]
      split
      · next slash =>
        -- the text of the path ends with a slash
        rcases List.getLast?_eq_some_iff.1 slash with ⟨front, whole⟩
        rw [place, place, segments, segments, origin, origin, absolute, String.toList_append, whole,
          List.append_assoc, List.singleton_append, splitSlash_append, splitSlash_append,
          splitSlash_of_not_mem plain, List.foldl_append, List.foldl_append]
        exact stepped _
      · rw [place, place, segments, segments, origin, origin, String.append_assoc, absolute,
          String.toList_append, String.toList_append,
          show "/".toList = ['/'] from rfl, List.singleton_append, splitSlash_append,
          splitSlash_of_not_mem plain, List.foldl_append]
        exact stepped _

/-- Slashes at the end lead nowhere. -/
theorem foldl_step_reverse_dropWhile (start : List String) (segments : List (List Char)) :
    (segments.reverse.dropWhile (· = [])).reverse.foldl step start = segments.foldl step start := by
  induction segments using List.reverseRecOn with
  | nil => rfl
  | append_singleton front last ih =>
      rw [List.reverse_append, List.reverse_singleton, List.singleton_append]
      by_cases empty : last = []
      · rw [List.dropWhile_cons_of_pos (by simp [empty]), ih, List.foldl_append, empty]
        rfl
      · rw [List.dropWhile_cons_of_neg (by simp [empty]), List.reverse_cons, List.reverse_reverse]

end Path

/-- What can stand at a place.  Of a directory only that it is there. -/
inductive Standing where
  | file (bytes : ByteArray)
  | directory

/-- The bytes of a file. -/
def Standing.bytes? : Standing → Option ByteArray
  | .file bytes => some bytes
  | .directory => none

namespace FileTree

variable {tree next node : FileTree} {path : Path} {here holder place : List String}
  {name : String} {bytes : ByteArray} {entries : List (String × FileTree)}

/-! ## Places -/

/-- What a tree is at its top. -/
def standing : FileTree → Standing
  | .file bytes => .file bytes
  | .directory _ => .directory

/-- What stands at a place of a tree. -/
def standingAt (tree : FileTree) (place : List String) : Option Standing :=
  (find? place tree).map standing

/-- The bytes of the file that stands at a place, if there is one. -/
def contents (tree : FileTree) (place : List String) : Option ByteArray :=
  match find? place tree with
  | some (.file bytes) => some bytes
  | _ => none

/-- The files of a tree are part of what stands in it. -/
theorem contents_eq (tree : FileTree) (place : List String) :
    tree.contents place = (tree.standingAt place).bind Standing.bytes? := by
  rw [contents, standingAt]
  cases find? place tree with
  | none => rfl
  | some node =>
      cases node with
      | file bytes => rfl
      | directory entries => rfl

theorem standingAt_eq_directory :
    tree.standingAt place = some .directory ↔
      ∃ entries, find? place tree = some (.directory entries) := by
  rw [standingAt, Option.map_eq_some_iff]
  constructor
  · rintro ⟨node, found, isDirectory⟩
    cases node with
    | file bytes => cases isDirectory
    | directory entries => exact ⟨entries, found⟩
  · rintro ⟨entries, found⟩
    exact ⟨_, found, rfl⟩

/-- Something that is new at a place changes the files there at most. -/
theorem contents_of_update {what : Standing}
    (changed : next.standingAt = Function.update tree.standingAt place (some what)) :
    next.contents = Function.update tree.contents place what.bytes? := by
  funext other
  rw [contents_eq, changed, Function.update_apply, Function.update_apply, contents_eq]
  split <;> rfl

/-- What stands below a place is found from there. -/
theorem find?_append (front back : List String) (tree : FileTree) :
    find? (front ++ back) tree = (find? front tree).bind (find? back) := by
  induction front generalizing tree with
  | nil => rfl
  | cons first rest ih =>
      cases tree with
      | file bytes => rfl
      | directory entries =>
          rw [List.cons_append, find?, find?, Option.bind_assoc]
          exact congrArg _ (funext fun inner => ih inner)

/-- Behind a place without a directory there is nothing. -/
theorem find?_append_cons_eq_none (notDirectory : tree.standingAt place ≠ some .directory)
    (back : List String) : find? (place ++ name :: back) tree = none := by
  rw [find?_append]
  cases found : find? place tree with
  | none => rfl
  | some node =>
      cases node with
      | file bytes => rfl
      | directory entries =>
          exact absurd (standingAt_eq_directory.2 ⟨entries, found⟩) notDirectory

/-- What is put at a place stands there, with all that is in it. -/
theorem find?_put (held : find? holder tree = some (.directory entries)) (back : List String) :
    find? (holder ++ [name] ++ back) (put node (holder ++ [name]) tree) = find? back node := by
  induction holder generalizing tree with
  | nil =>
      cases held
      rw [List.nil_append, List.singleton_append, put, find?, lookup_insertSorted, if_pos rfl, put]
      rfl
  | cons first rest ih =>
      cases tree with
      | file bytes => cases held
      | directory outer =>
          rw [find?] at held
          rcases Option.bind_eq_some_iff.1 held with ⟨inner, found, below⟩
          rw [List.cons_append, List.cons_append, put, find?, lookup_insertSorted, if_pos rfl,
            found]
          exact ih below

/-- What is put at a place changes nothing elsewhere. -/
theorem standingAt_put_elsewhere (held : find? holder tree = some (.directory entries))
    (elsewhere : ¬ (holder ++ [name]) <+: place) :
    (put node (holder ++ [name]) tree).standingAt place = tree.standingAt place := by
  induction holder generalizing tree place with
  | nil =>
      cases held
      rw [List.nil_append] at elsewhere ⊢
      cases place with
      | nil => rfl
      | cons first rest =>
          have differ : first ≠ name := by
            rintro rfl
            exact elsewhere ⟨rest, rfl⟩
          rw [standingAt, standingAt, put, find?, lookup_insertSorted, if_neg differ, find?]
  | cons outerName holderRest ih =>
      cases tree with
      | file bytes => cases held
      | directory outer =>
          rw [find?] at held
          rcases Option.bind_eq_some_iff.1 held with ⟨inner, found, below⟩
          cases place with
          | nil => rfl
          | cons first rest =>
              rw [standingAt, standingAt, List.cons_append, put, find?, lookup_insertSorted, find?]
              by_cases same : first = outerName
              · subst same
                rw [if_pos rfl, found]
                apply ih below
                rintro ⟨back, rfl⟩
                exact elsewhere ⟨back, by simp⟩
              · rw [if_neg same]

/-- A file or an empty directory that is put where no directory stands changes the tree at
its place only. -/
theorem standingAt_put (held : find? holder tree = some (.directory entries))
    (notDirectory : tree.standingAt (holder ++ [name]) ≠ some .directory)
    (bare : ∀ first rest, find? (first :: rest) node = none) :
    (put node (holder ++ [name]) tree).standingAt =
      Function.update tree.standingAt (holder ++ [name]) (some node.standing) := by
  funext place
  -- only what is at the place or below it can change, and below it nothing stood or stands
  by_cases inside : (holder ++ [name]) <+: place
  · rcases inside with ⟨back, rfl⟩
    rw [standingAt, find?_put held]
    cases back with
    | nil => simp [find?]
    | cons first rest =>
        have nothing : tree.standingAt (holder ++ [name] ++ first :: rest) = none := by
          rw [standingAt, find?_append_cons_eq_none notDirectory, Option.map_none]
        rw [Function.update_of_ne (by simp), nothing, bare, Option.map_none]
  · rw [standingAt_put_elsewhere held inside, Function.update_of_ne]
    rintro rfl
    exact inside (List.prefix_refl _)

theorem erase_cons_append (first : String) (back : List String)
    (entries : List (String × FileTree)) :
    erase (first :: (back ++ [name])) (.directory entries) =
      match entries.lookup first with
      | some inner => .directory (insertSorted entries first (erase (back ++ [name]) inner))
      | none => .directory entries := by
  cases back <;> rfl

/-- What has nothing below it is taken out of the tree and out of nowhere else. -/
theorem standingAt_erase (held : find? holder tree = some (.directory entries))
    (bare : ∀ first rest, find? (holder ++ [name] ++ first :: rest) tree = none) :
    (erase (holder ++ [name]) tree).standingAt =
      Function.update tree.standingAt (holder ++ [name]) none := by
  funext place
  induction holder generalizing tree place with
  | nil =>
      cases held
      rw [List.nil_append] at bare ⊢
      cases place with
      | nil => rfl
      | cons first rest =>
          rw [standingAt, erase, find?, lookup_filter_ne]
          split
          · next same =>
            subst same
            cases rest with
            | nil => simp
            | cons second rest =>
                rw [Function.update_of_ne (by simp), standingAt]
                exact (congrArg (Option.map standing) (bare second rest)).symm
          · next differ =>
            rw [Function.update_of_ne (by simp [differ]), standingAt, find?]
  | cons outerName holderRest ih =>
      cases tree with
      | file bytes => cases held
      | directory outer =>
          rw [find?] at held
          rcases Option.bind_eq_some_iff.1 held with ⟨inner, found, below⟩
          rw [List.cons_append, erase_cons_append, found]
          cases place with
          | nil => rfl
          | cons first rest =>
              rw [standingAt, find?, lookup_insertSorted]
              by_cases same : first = outerName
              · subst same
                have within : ∀ back,
                    find? (first :: back) (.directory outer) = find? back inner := by
                  intro back
                  rw [find?, found]
                  rfl
                have here := ih below (fun second back => by
                  rw [← within]
                  exact bare second back) rest
                rw [if_pos rfl]
                refine here.trans ?_
                rw [Function.update_apply, Function.update_apply]
                simp only [List.cons.injEq, true_and, standingAt, within]
              · rw [if_neg same, Function.update_of_ne (by simp [same]), standingAt, find?]

/-! ## Requests -/

/-- Segments that can be followed end where they lead. -/
theorem follow_eq_ok {segments : List (List Char)} {last : List String}
    (followed : follow tree place segments = .ok last) : last = segments.foldl Path.step place := by
  induction segments generalizing place with
  | nil =>
      cases followed
      rfl
  | cons segment rest ih =>
      rw [follow] at followed
      rw [List.foldl_cons, Path.step]
      split at followed
      · cases followed
      · cases followed
      · split at followed
        · next idle =>
          rw [if_pos idle]
          exact ih followed
        · next notIdle =>
          rw [if_neg notIdle]
          split at followed
          · next parent =>
            rw [if_pos parent]
            exact ih followed
          · next named =>
            rw [if_neg named]
            dsimp only at followed
            split_ifs at followed
            exact ih followed

/-- What a path that denotes an entry says: its last segment but for slashes is the name of the
entry, and the ones before lead to the directory. -/
structure Denotes (tree : FileTree) (here : List String) (path : Path) (holder : List String)
    (name : String) (slashed : Bool) : Prop where
  checked : checkPath path = .ok ()
  segments : ∃ before, path.segments.reverse.dropWhile (· = []) = name.toList :: before ∧
    follow tree (path.origin here) before.reverse = .ok holder
  held : ∃ entries, find? holder tree = some (.directory entries)
  notDots : ¬ (name.toList = ['.'] ∨ name.toList = ['.', '.'])
  short : ¬ longestName < name.utf8ByteSize
  slashed_eq : decide (path.segments.getLast? = some []) = slashed

theorem target_eq_entry_iff {slashed : Bool} :
    tree.target path here = .ok (.entry holder name slashed) ↔
      Denotes tree here path holder name slashed := by
  rw [target]
  constructor
  · intro denotes
    rcases Except.bind_eq_ok.1 denotes with ⟨_, checked, denotes⟩
    cases trimmed : path.segments.reverse.dropWhile (· = []) with
    | nil =>
        simp only [trimmed] at denotes
        cases denotes
    | cons last before =>
        simp only [trimmed] at denotes
        rcases Except.bind_eq_ok.1 denotes with ⟨reached, followed, denotes⟩
        split at denotes
        · next entries found =>
          split_ifs at denotes with dots long
          · cases denotes
          · cases denotes
            rw [← String.toList_ofList (l := last)] at dots trimmed
            exact ⟨checked, ⟨before, trimmed, followed⟩, ⟨entries, found⟩, dots, long, rfl⟩
        · cases denotes
        · cases denotes
  · rintro ⟨checked, ⟨before, trimmed, followed⟩, ⟨entries, found⟩, notDots, short, rfl⟩
    refine Except.bind_eq_ok.2 ⟨_, checked, ?_⟩
    simp only [trimmed]
    refine Except.bind_eq_ok.2 ⟨holder, followed, ?_⟩
    simp only [found, if_neg notDots, String.ofList_toList, if_neg short]

/-- The name of an entry is a segment that leads somewhere. -/
theorem Denotes.notIdle {slashed : Bool} (denotes : Denotes tree here path holder name slashed) :
    Path.isIdle name.toList = false := by
  rcases denotes.segments with ⟨before, trimmed, -⟩
  have named : name.toList ≠ [] := by
    have first := List.head?_dropWhile_not (· = []) path.segments.reverse
    rw [trimmed] at first
    simpa using first
  simp [Path.isIdle, named, mt Or.inl denotes.notDots]

/-- An entry that a path denotes is at the place of the path, in a directory. -/
theorem target_eq_entry {slashed : Bool}
    (denoted : tree.target path here = .ok (.entry holder name slashed)) :
    holder ++ [name] = path.place here ∧
      ∃ entries, find? holder tree = some (.directory entries) := by
  have denotes := target_eq_entry_iff.1 denoted
  refine ⟨?_, denotes.held⟩
  rcases denotes.segments with ⟨before, trimmed, followed⟩
  rw [Path.place, ← Path.foldl_step_reverse_dropWhile, trimmed, List.reverse_cons,
    List.foldl_append, ← follow_eq_ok followed]
  simp [Path.step, denotes.notIdle, mt Or.inr denotes.notDots]

/-- A directory that has been made is new at the place of its path. -/
theorem standingAt_of_makeDirectory (made : tree.makeDirectory path here = .ok next) :
    tree.standingAt (path.place here) = none ∧
      next.standingAt = Function.update tree.standingAt (path.place here) (some .directory) := by
  rw [makeDirectory] at made
  rcases Except.bind_eq_ok.1 made with ⟨target, denotes, made⟩
  cases target with
  | passage => cases made
  | entry holder name slashed =>
      rcases target_eq_entry denotes with ⟨place, entries, held⟩
      dsimp only at made
      split at made
      · cases made
      · next absent =>
        cases made
        have nothing : tree.standingAt (holder ++ [name]) = none := by
          rw [standingAt, absent, Option.map_none]
        rw [← place]
        exact ⟨nothing, standingAt_put held (by simp [nothing]) fun _ _ => rfl⟩

end FileTree

end NodeDecl
