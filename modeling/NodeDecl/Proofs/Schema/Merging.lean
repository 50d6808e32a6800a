import Mathlib.Data.List.Induction
import NodeDecl.Proofs.Host.Execution
import NodeDecl.Proofs.Schema.Definitions

/-!
# What loading comes to

Loading schema files either puts all their definitions together or stops at the first file
that cannot be read, that is no schema, or that defines a kind again.  Which of the two
happens, and with which failure, is said by the contents of the files alone.
-/

namespace NodeDecl

/-- A file and the definitions that it gives. -/
abbrev SchemaFile := Path × List (String × KindDefinition)

/-- The names of the kinds that some files define. -/
def kindNames (files : List SchemaFile) : List String :=
  (files.flatMap (·.2)).map (·.1)

theorem kindNames_append (files more : List SchemaFile) :
    kindNames (files ++ more) = kindNames files ++ kindNames more := by
  simp [kindNames]

@[simp] theorem kindNames_singleton (file : SchemaFile) :
    kindNames [file] = file.2.map (·.1) := by
  simp [kindNames]

/-- Kinds stay distinct with a file of new kinds, each defined once. -/
theorem nodup_kindNames_append_singleton {files : List SchemaFile} {file : SchemaFile} :
    (kindNames (files ++ [file])).Nodup ↔
      (kindNames files).Nodup ∧ (file.2.map (·.1)).Nodup ∧
        ∀ entry ∈ file.2, entry.1 ∉ kindNames files := by
  rw [kindNames_append, kindNames_singleton, List.nodup_append', List.disjoint_right]
  simp only [List.mem_map, forall_exists_index, and_imp, forall_apply_eq_imp_iff₂]

namespace FileTree

/-- A file that can be read gives certain definitions, in which a kind may come again. -/
def Defines (tree : FileTree) (here : List String) (file : SchemaFile) : Prop :=
  ∃ text, tree.readText file.1 here = .ok text ∧ Registry.definitions? text = some file.2

/-- Files that define what they are said to, with no kind among them twice. -/
structure Mergeable (tree : FileTree) (here : List String) (files : List SchemaFile) : Prop where
  defines : ∀ file ∈ files, tree.Defines here file
  distinct : (kindNames files).Nodup

/-- The failures of a file that stands behind some mergeable ones. -/
inductive Stops (tree : FileTree) (here : List String) (earlier : List SchemaFile) (path : Path) :
    Failure → Prop
  | unreadable {fault : Fault} (refused : tree.readText path here = .error fault) :
      Stops tree here earlier path (.io path fault)
  /-- The file is no schema. -/
  | malformed {text : String} {error : Json.ParseError} (read : tree.readText path here = .ok text)
      (refused : Registry.definitions? text = none)
      (parsed : Registry.parse text path.text = .error (.schema path.text error)) :
      Stops tree here earlier path (.schema path.text error)
  /-- The file defines a kind more than once. -/
  | repeated {text name : String} {definitions : List (String × KindDefinition)}
      {error : Json.ParseError} (read : tree.readText path here = .ok text)
      (given : Registry.definitions? text = some definitions)
      (again : Repeats name (definitions.map (·.1)))
      (parsed : Registry.parse text path.text = .error (.schema path.text error))
      (reason : error.reason = .definedTwice "node kind" name) :
      Stops tree here earlier path (.schema path.text error)
  /-- The file defines a kind that an earlier one defines.  Its kinds before that one are
  new. -/
  | redefined {name : String} {definition : KindDefinition}
      {ahead behind own : List (String × KindDefinition)} {first : Path}
      (given : tree.Defines here (path, ahead ++ (name, definition) :: behind))
      (once : ((ahead ++ (name, definition) :: behind).map (·.1)).Nodup)
      (new : ∀ entry ∈ ahead, entry.1 ∉ kindNames earlier)
      (defined : (first, own) ∈ earlier) (member : name ∈ own.map (·.1)) :
      Stops tree here earlier path (.duplicateKind name first path)

/-- The failure of the first file in a list that stops its loading.  The files behind it
play no part. -/
def Blames (tree : FileTree) (here : List String) (paths : List Path) (failure : Failure) : Prop :=
  ∃ earlier path later, paths = earlier.map (·.1) ++ path :: later ∧
    tree.Mergeable here earlier ∧ tree.Stops here earlier path failure

end FileTree

namespace Merge

/-- The state of a merge behind some files: their definitions, and the file of each. -/
structure Behind (files : List SchemaFile) (merge : Merge) : Prop where
  kinds : merge.kinds.entries = files.flatMap (·.2)
  origins : merge.origins.entries =
    files.flatMap fun file => file.2.map fun entry => (entry.1, file.1)

variable {merge : Merge} {files : List SchemaFile} {path : Path}

theorem behind_nil : Behind [] {} := ⟨rfl, rfl⟩

theorem Behind.keys_origins (behind : merge.Behind files) :
    merge.origins.keys = kindNames files := by
  rw [OrderedMap.keys, behind.origins, kindNames, List.map_flatMap, List.map_flatMap]
  simp only [List.map_map]
  rfl

/-- The origin of a kind is the file that defines it. -/
theorem Behind.get?_origins (behind : merge.Behind files) {name : String} {first : Path} :
    merge.origins.get? name = some first ↔
      ∃ own, (first, own) ∈ files ∧ name ∈ own.map (·.1) := by
  rw [OrderedMap.get?_eq_some_iff, behind.origins, List.mem_flatMap]
  constructor
  · rintro ⟨⟨path, own⟩, member, entry⟩
    obtain ⟨⟨name', definition⟩, inside, equal⟩ := List.mem_map.1 entry
    cases equal
    exact ⟨own, member, List.mem_map_of_mem inside⟩
  · rintro ⟨own, member, inside⟩
    obtain ⟨entry, found, rfl⟩ := List.mem_map.1 inside
    exact ⟨(first, own), member, List.mem_map_of_mem found⟩

/-- A kind that is new is taken up into the last file. -/
theorem Behind.insert {done : List (String × KindDefinition)} {name : String}
    (behind : merge.Behind (files ++ [(path, done)]))
    (new : name ∉ kindNames (files ++ [(path, done)])) (definition : KindDefinition) :
    Behind (files ++ [(path, done ++ [(name, definition)])])
      { kinds := merge.kinds.insert name definition
        origins := merge.origins.insert name path } := by
  have noOrigin : name ∉ merge.origins.keys := behind.keys_origins ▸ new
  have noKind : name ∉ merge.kinds.keys := by
    rw [OrderedMap.keys, behind.kinds]
    exact new
  constructor
  · rw [OrderedMap.entries_insert_of_not_mem noKind, behind.kinds]
    simp
  · rw [OrderedMap.entries_insert_of_not_mem noOrigin, behind.origins]
    simp

/-- Adding the kinds of a file goes on behind those that are new. -/
theorem Behind.add_append {ahead : List (String × KindDefinition)} (behind : merge.Behind files)
    (distinct : (kindNames (files ++ [(path, ahead)])).Nodup) :
    ∃ next, Behind (files ++ [(path, ahead)]) next ∧
      ∀ rest, merge.add path (ahead ++ rest) = next.add path rest := by
  have general : ∀ (ahead done : List (String × KindDefinition)) (merge : Merge),
      merge.Behind (files ++ [(path, done)]) →
      (kindNames (files ++ [(path, done ++ ahead)])).Nodup →
      ∃ next, Behind (files ++ [(path, done ++ ahead)]) next ∧
        ∀ rest, merge.add path (ahead ++ rest) = next.add path rest := by
    intro ahead
    induction ahead with
    | nil =>
        intro done merge behind _
        refine ⟨merge, ?_, fun _ => rfl⟩
        rwa [List.append_nil]
    | cons entry ahead ih =>
        intro done merge behind distinct
        obtain ⟨name, definition⟩ := entry
        have regrouped : done ++ (name, definition) :: ahead =
            done ++ [(name, definition)] ++ ahead := by simp
        rw [regrouped] at distinct ⊢
        have new : name ∉ kindNames (files ++ [(path, done)]) := by
          have apart : (kindNames (files ++ [(path, done)]) ++
              name :: ahead.map (·.1)).Nodup := by
            simpa [kindNames_append] using distinct
          intro member
          exact (List.nodup_append.1 apart).2.2 name member name List.mem_cons_self rfl
        obtain ⟨next, nextBehind, adds⟩ := ih _ _ (behind.insert new definition) distinct
        refine ⟨next, nextBehind, ?_⟩
        intro rest
        have noOrigin : merge.origins.get? name = none :=
          OrderedMap.get?_eq_none_iff.2 (behind.keys_origins ▸ new)
        rw [List.cons_append, add, noOrigin]
        exact adds rest
  apply general ahead [] merge _ distinct
  constructor
  · simpa using behind.kinds
  · simpa using behind.origins

end Merge

namespace Registry

variable {session : Session}

theorem carryOut_ofExcept {α : Type} (session : Session) (outcome : Except Failure α) :
    session.carryOut (Action.ofExcept outcome) = (outcome, session) := rfl

/-- One turn of loading. -/
theorem loadInto_cons_on (session : Session) (merge : Merge) (path : Path) (rest : List Path) :
    (loadInto merge (path :: rest) : Action (StateM Session) Merge).on session =
      match session.tree.readText path session.directory with
      | .error fault => (.error (.io path fault), session)
      | .ok text =>
          match parse text path.text with
          | .error failure => (.error failure, session)
          | .ok part =>
              match merge.add path part.kinds.entries with
              | .error failure => (.error failure, session)
              | .ok next =>
                  (loadInto next rest : Action (StateM Session) Merge).on
                    { session with log := session.log ++ [.loadedSchema path] } := by
  have requested : session.carryOut (Action.request path (Host.readText path)) =
      ((session.tree.readText path session.directory).mapError (.io path), session) :=
    Action.outcomeIn_request path _ session
  change session.carryOut _ = _
  rw [loadInto, Session.carryOut_bind, requested]
  cases session.tree.readText path session.directory with
  | error fault => rfl
  | ok text =>
      change session.carryOut (Action.ofExcept (parse text path.text) >>= _) = _
      rw [Session.carryOut_bind, carryOut_ofExcept]
      dsimp only
      cases parse text path.text with
      | error failure => rfl
      | ok part =>
          change session.carryOut (Action.ofExcept (merge.add path part.kinds.entries) >>= _) = _
          rw [Session.carryOut_bind, carryOut_ofExcept]
          dsimp only
          cases merge.add path part.kinds.entries with
          | error failure => rfl
          | ok next => rfl

theorem load_on (session : Session) (paths : List Path) :
    ((load paths : Action (StateM Session) Registry).on session).1 =
      ((loadInto {} paths : Action (StateM Session) Merge).on session).1.map
        fun merge => { kinds := merge.kinds } := by
  change (outcomeIn session (load paths)).1 = _
  rw [load, outcomeIn_bind_pure]
  rfl

/-- Loading goes on behind files that can be merged. -/
theorem loadInto_append {merge : Merge} {earlier files : List SchemaFile}
    (behind : merge.Behind earlier)
    (mergeable : session.tree.Mergeable session.directory (earlier ++ files))
    (rest : List Path) :
    ∃ next later, Merge.Behind (earlier ++ files) next ∧
      later.surroundings = session.surroundings ∧
      (loadInto merge (files.map (·.1) ++ rest) : Action (StateM Session) Merge).on session =
        (loadInto next rest : Action (StateM Session) Merge).on later := by
  induction files generalizing merge earlier session with
  | nil =>
      refine ⟨merge, session, ?_, rfl, rfl⟩
      rwa [List.append_nil]
  | cons file files ih =>
      have regrouped : earlier ++ file :: files = earlier ++ [file] ++ files := by simp
      rw [regrouped] at mergeable ⊢
      obtain ⟨path, definitions⟩ := file
      have distinct : (kindNames (earlier ++ [(path, definitions)])).Nodup := by
        have distinct := mergeable.distinct
        rw [kindNames_append _ files] at distinct
        exact (List.nodup_append.1 distinct).1
      obtain ⟨-, once, -⟩ := nodup_kindNames_append_singleton.1 distinct
      obtain ⟨text, read, given⟩ := mergeable.defines (path, definitions) (by simp)
      obtain ⟨part, parsed, rfl⟩ := parse_of_definitions given once
      obtain ⟨next, nextBehind, adds⟩ := behind.add_append distinct
      have added : merge.add path part.kinds.entries = .ok next := by
        rw [← List.append_nil part.kinds.entries, adds, Merge.add]
      let turned : Session := { session with log := session.log ++ [.loadedSchema path] }
      have still : turned.tree.Mergeable turned.directory
          (earlier ++ [(path, part.kinds.entries)] ++ files) :=
        mergeable
      obtain ⟨last, later, lastBehind, same, loads⟩ := ih nextBehind still
      refine ⟨last, later, lastBehind, same, ?_⟩
      rw [List.map_cons, List.cons_append, loadInto_cons_on, read]
      dsimp only
      rw [parsed]
      dsimp only
      rw [added]
      exact loads

/-- Loading ends at a file that stops it. -/
theorem loadInto_of_stops {merge : Merge} {earlier : List SchemaFile} {path : Path}
    {failure : Failure} (behind : merge.Behind earlier)
    (mergeable : session.tree.Mergeable session.directory earlier)
    (stops : session.tree.Stops session.directory earlier path failure) (later : List Path) :
    ((loadInto merge (path :: later) : Action (StateM Session) Merge).on session).1 =
      .error failure := by
  rw [loadInto_cons_on]
  cases stops with
  | unreadable refused => rw [refused]
  | malformed read _ parsed =>
      rw [read]
      dsimp only
      rw [parsed]
  | repeated read _ _ parsed _ =>
      rw [read]
      dsimp only
      rw [parsed]
  | @redefined name _ ahead _ own first given once new defined member =>
      obtain ⟨text, read, given⟩ := given
      obtain ⟨part, parsed, same⟩ := parse_of_definitions given once
      have distinct : (kindNames (earlier ++ [(path, ahead)])).Nodup := by
        rw [List.map_append] at once
        exact nodup_kindNames_append_singleton.2
          ⟨mergeable.distinct, (List.nodup_append.1 once).1, new⟩
      obtain ⟨next, nextBehind, adds⟩ := behind.add_append distinct
      have found : next.origins.get? name = some first :=
        nextBehind.get?_origins.2 ⟨own, List.mem_append_left _ defined, member⟩
      have added : merge.add path part.kinds.entries = .error (.duplicateKind name first path) := by
        rw [same, adds, Merge.add, found]
      rw [read]
      dsimp only
      rw [parsed]
      dsimp only
      rw [added]

end Registry

namespace FileTree

variable {tree : FileTree} {here : List String} {files : List SchemaFile}

/-- In files that can be merged every kind is defined once. -/
theorem Mergeable.once (mergeable : tree.Mergeable here files) {file : SchemaFile}
    (member : file ∈ files) : (file.2.map (·.1)).Nodup := by
  have distinct := mergeable.distinct
  rw [kindNames, List.map_flatMap] at distinct
  exact (List.nodup_flatMap.1 distinct).1 file member

/-- A file behind mergeable ones is mergeable with them, or it stops loading. -/
theorem Mergeable.extend_or_stops (mergeable : tree.Mergeable here files) (path : Path) :
    (∃ definitions, tree.Mergeable here (files ++ [(path, definitions)])) ∨
      ∃ failure, tree.Stops here files path failure := by
  cases read : tree.readText path here with
  | error fault => exact .inr ⟨_, .unreadable read⟩
  | ok text =>
      cases given : Registry.definitions? text with
      | none =>
          right
          obtain ⟨registry, -, some⟩ | ⟨error, parsed, -⟩ := Registry.parse_cases text path.text
          · rw [given] at some
            contradiction
          · exact ⟨_, .malformed read given parsed⟩
      | some definitions =>
          by_cases once : (definitions.map (·.1)).Nodup
          · cases again : definitions.find? (·.1 ∈ kindNames files) with
            | none =>
                left
                refine ⟨definitions, ?_, ?_⟩
                · intro file member
                  obtain earlier | single := List.mem_append.1 member
                  · exact mergeable.defines file earlier
                  · rw [List.mem_singleton.1 single]
                    exact ⟨text, read, given⟩
                · apply nodup_kindNames_append_singleton.2
                  refine ⟨mergeable.distinct, once, ?_⟩
                  intro entry member
                  simpa using List.find?_eq_none.1 again entry member
            | some entry =>
                right
                obtain ⟨known, ahead, behind, rfl, new⟩ := List.find?_eq_some_iff_append.1 again
                obtain ⟨name, definition⟩ := entry
                obtain ⟨⟨_, other⟩, inside, same⟩ := List.mem_map.1 (of_decide_eq_true known)
                obtain ⟨⟨first, own⟩, defined, member⟩ := List.mem_flatMap.1 inside
                refine ⟨_, .redefined ⟨text, read, given⟩ once ?_ defined ?_⟩
                · intro entry member
                  simpa using new entry member
                · exact List.mem_map.2 ⟨_, member, same⟩
          · right
            obtain ⟨registry, -, same⟩ | ⟨error, parsed, faults⟩ :=
              Registry.parse_cases text path.text
            · rw [given] at same
              cases same
              exact absurd registry.kinds.keys_nodup once
            · obtain ⟨name, reason, repeats⟩ := faults definitions given
              exact ⟨_, .repeated read given repeats parsed reason⟩

/-- Files can be merged, or one of them is to blame. -/
theorem mergeable_or_blames (tree : FileTree) (here : List String) (paths : List Path) :
    (∃ files, files.map (·.1) = paths ∧ tree.Mergeable here files) ∨
      ∃ failure, tree.Blames here paths failure := by
  induction paths using List.reverseRecOn with
  | nil => exact .inl ⟨[], rfl, by simp, .nil⟩
  | append_singleton paths path ih =>
      obtain ⟨files, rfl, mergeable⟩ | ⟨failure, earlier, culprit, later, rfl, blamed⟩ := ih
      · obtain ⟨definitions, extended⟩ | ⟨failure, stops⟩ := mergeable.extend_or_stops path
        · exact .inl ⟨_, by simp, extended⟩
        · exact .inr ⟨failure, files, path, [], rfl, mergeable, stops⟩
      · exact .inr ⟨failure, earlier, culprit, later ++ [path], by simp, blamed⟩

end FileTree

namespace Registry

variable {session : Session} {files : List SchemaFile} {paths : List Path} {failure : Failure}

/-- Files that can be merged are merged. -/
theorem load_of_mergeable (mergeable : session.tree.Mergeable session.directory files) :
    ∃ registry : Registry, registry.kinds.entries = files.flatMap (·.2) ∧
      ((load (files.map (·.1)) : Action (StateM Session) Registry).on session).1 =
        .ok registry := by
  have whole : session.tree.Mergeable session.directory ([] ++ files) := mergeable
  obtain ⟨merge, later, behind, -, loads⟩ := loadInto_append Merge.behind_nil whole []
  rw [List.append_nil] at loads
  refine ⟨{ kinds := merge.kinds }, behind.kinds, ?_⟩
  rw [load_on, loads]
  rfl

/-- The file that is to blame makes loading fail. -/
theorem load_of_blames (blames : session.tree.Blames session.directory paths failure) :
    ((load paths : Action (StateM Session) Registry).on session).1 = .error failure := by
  obtain ⟨earlier, path, rest, rfl, mergeable, stops⟩ := blames
  have whole : session.tree.Mergeable session.directory ([] ++ earlier) := mergeable
  obtain ⟨merge, later, behind, same, loads⟩ :=
    loadInto_append Merge.behind_nil whole (path :: rest)
  rcases Prod.mk.inj same with ⟨sameTree, sameDirectory⟩
  rw [← sameTree, ← sameDirectory] at mergeable stops
  rw [load_on, loads, loadInto_of_stops behind mergeable stops]
  rfl

/-- Files that have been loaded can be merged. -/
theorem mergeable_of_load {registry : Registry}
    (loaded : ((load paths : Action (StateM Session) Registry).on session).1 = .ok registry) :
    ∃ files, files.map (·.1) = paths ∧ session.tree.Mergeable session.directory files ∧
      registry.kinds.entries = files.flatMap (·.2) := by
  obtain ⟨files, rfl, mergeable⟩ | ⟨failure, blames⟩ :=
    session.tree.mergeable_or_blames session.directory paths
  · obtain ⟨registry', entries, loaded'⟩ := load_of_mergeable mergeable
    rw [loaded] at loaded'
    cases loaded'
    exact ⟨files, rfl, mergeable, entries⟩
  · rw [load_of_blames blames] at loaded
    contradiction

/-- Files whose loading fails are not without blame. -/
theorem blames_of_load
    (failed : ((load paths : Action (StateM Session) Registry).on session).1 =
      .error failure) :
    session.tree.Blames session.directory paths failure := by
  obtain ⟨files, rfl, mergeable⟩ | ⟨failure', blames⟩ :=
    session.tree.mergeable_or_blames session.directory paths
  · obtain ⟨registry, -, loaded⟩ := load_of_mergeable mergeable
    rw [loaded] at failed
    contradiction
  · rw [load_of_blames blames] at failed
    cases failed
    exact blames

/-- **Loading is decided by the contents of the files alone.**  It succeeds if and only if
the files can be merged, with their definitions one behind the other; and it fails if and
only if one of the files is to blame. -/
theorem load_outcome (session : Session) (paths : List Path) :
    (∀ registry,
      ((load paths : Action (StateM Session) Registry).on session).1 = .ok registry ↔
        ∃ files, files.map (·.1) = paths ∧ session.tree.Mergeable session.directory files ∧
          registry.kinds.entries = files.flatMap (·.2)) ∧
    ∀ failure,
      ((load paths : Action (StateM Session) Registry).on session).1 = .error failure ↔
        session.tree.Blames session.directory paths failure := by
  constructor
  · intro registry
    constructor
    · exact mergeable_of_load
    · rintro ⟨files, rfl, mergeable, entries⟩
      obtain ⟨⟨kinds⟩, entries', loaded⟩ := load_of_mergeable mergeable
      rw [loaded]
      congr 2
      exact OrderedMap.ext (entries'.trans entries.symm)
  · intro failure
    exact ⟨blames_of_load, load_of_blames⟩

end Registry

end NodeDecl
