import Mathlib.Data.List.Flatten
import NodeDecl.Command.Run
import NodeDecl.Proofs.Glob.Expansion
import NodeDecl.Proofs.Host.Execution
import NodeDecl.Proofs.Schema.Definitions

/-!
# Input files

A command expands the texts that it is given in their order, and then loads the files that
they stand for one after the other.  If a text is refused, no file is read.  Every kind is
taken up once only, so a file that is reached twice makes loading fail as soon as it defines
a kind, whichever texts lead to it.
-/

namespace NodeDecl

variable {σ : Type} [Host (StateM σ)] {state last : σ} {paths : List Path}

/-- The definitions that the file at a path gives, none if it is no schema. -/
def definitionsAt (state : σ) (path : Path) : List (String × KindDefinition) :=
  match textAt state path with
  | .error _ => []
  | .ok text => (Registry.definitions? text).getD []

/-- The definitions at a path are those of the text that is read there. -/
theorem definitionsAt_eq_of_textAt_eq {later : σ} {path other : Path}
    (same : textAt state path = textAt later other) :
    definitionsAt state path = definitionsAt later other := by
  rw [definitionsAt, definitionsAt, same]

/-! ## Kinds are taken up once -/

/-- Kinds that are added are new, and they come behind the others. -/
theorem Merge.keys_add {merge next : Merge} {path : Path}
    {entries : List (String × KindDefinition)} (added : merge.add path entries = .ok next) :
    next.origins.keys = merge.origins.keys ++ entries.map (·.1) := by
  induction entries generalizing merge with
  | nil =>
      cases added
      simp
  | cons entry rest ih =>
      obtain ⟨name, definition⟩ := entry
      rw [add] at added
      split at added
      · cases added
      · next absent =>
        rw [ih added, OrderedMap.keys_insert_of_not_mem (OrderedMap.get?_eq_none_iff.1 absent)]
        simp

namespace Registry

/-- One turn of loading that succeeds. -/
theorem loadInto_cons_eq_ok (quiet : Quiet σ) {merge merged : Merge} {path : Path}
    {rest : List Path}
    (done : outcomeIn state (loadInto merge (path :: rest)) = (.ok merged, last)) :
    ∃ text part next later, textAt state path = .ok text ∧ parse text path.text = .ok part ∧
      merge.add path part.kinds.entries = .ok next ∧ textAt later = textAt state ∧
      outcomeIn later (loadInto next rest) = (.ok merged, last) := by
  obtain ⟨text, read, requested, done⟩ := outcomeIn_bind_eq_ok done
  have service := Action.outcomeIn_request_eq_ok requested
  obtain ⟨part, _, parses, done⟩ := outcomeIn_bind_eq_ok done
  obtain ⟨parsed, rfl⟩ := Prod.mk.inj ((Action.outcomeIn_ofExcept _ _).symm.trans parses)
  obtain ⟨next, _, adds, done⟩ := outcomeIn_bind_eq_ok done
  obtain ⟨added, rfl⟩ := Prod.mk.inj ((Action.outcomeIn_ofExcept _ _).symm.trans adds)
  obtain ⟨_, later, logged, done⟩ := outcomeIn_bind_eq_ok done
  refine ⟨text, part, next, later, congrArg Prod.fst service, parsed, added, ?_, done⟩
  calc textAt later
      = textAt read := (quiet.log _).run_lift.outcomeIn logged
    _ = textAt state := (Action.keeps_request _ (quiet.readText path)).outcomeIn requested

/-- The definitions at a path are those of the registry that is parsed there. -/
theorem definitionsAt_of_parse {path : Path} {text : String} {part : Registry}
    (read : textAt state path = .ok text) (parsed : parse text path.text = .ok part) :
    definitionsAt state path = part.kinds.entries := by
  rw [definitionsAt, read]
  cases parse_cases text path.text with
  | inl accepted =>
      obtain ⟨registry, parsed', given⟩ := accepted
      rw [parsed] at parsed'
      cases parsed'
      simp [given]
  | inr refused =>
      obtain ⟨_, parsed', -⟩ := refused
      rw [parsed] at parsed'
      cases parsed'

/-- Loading that succeeds takes up the kinds of all files, in order. -/
theorem keys_loadInto (quiet : Quiet σ) {merge merged : Merge}
    (done : outcomeIn state (loadInto merge paths) = (.ok merged, last)) :
    merged.origins.keys =
      merge.origins.keys ++ (paths.flatMap (definitionsAt state)).map (·.1) := by
  induction paths generalizing state merge with
  | nil =>
      cases done
      simp
  | cons path rest ih =>
      obtain ⟨text, part, next, later, read, parsed, added, same, done⟩ :=
        loadInto_cons_eq_ok quiet done
      have others : definitionsAt later = definitionsAt state := by
        funext other
        exact definitionsAt_eq_of_textAt_eq (congrFun same other)
      rw [ih done, others, Merge.keys_add added, List.flatMap_cons,
        definitionsAt_of_parse read parsed]
      simp

/-- Files whose loading succeeds define every kind once. -/
theorem nodup_of_load (quiet : Quiet σ) {registry : Registry}
    (done : outcomeIn state (load paths) = (.ok registry, last)) :
    ((paths.flatMap (definitionsAt state)).map (·.1)).Nodup := by
  obtain ⟨merged, later, loaded, -⟩ := outcomeIn_bind_eq_ok done
  have keys := keys_loadInto quiet loaded
  have distinct : merged.origins.keys.Nodup := merged.origins.keys_nodup
  rw [keys] at distinct
  exact (List.nodup_append.1 distinct).2.1

/-- A file that comes twice and defines a kind makes loading fail, however it is spelled. -/
theorem load_of_twice (quiet : Quiet σ) {path other : Path}
    (twice : [path, other].Sublist paths) (same : textAt state path = textAt state other)
    (defines : definitionsAt state path ≠ []) :
    ∃ failure, (outcomeIn state (load paths)).1 = .error failure := by
  cases result : outcomeIn state (load paths) with
  | mk outcome last =>
      cases outcome with
      | error failure => exact ⟨failure, rfl⟩
      | ok registry =>
          exfalso
          have kept : (definitionsAt state path ++ definitionsAt state other).Sublist
              (paths.flatMap (definitionsAt state)) := by
            simpa using twice.flatMap (definitionsAt state)
          have distinct := (nodup_of_load quiet result).sublist (kept.map _)
          obtain ⟨entry, rest, entries⟩ := List.exists_cons_of_ne_nil defines
          rw [← definitionsAt_eq_of_textAt_eq same, entries] at distinct
          simp at distinct

end Registry

namespace Command

open Glob

/-- Two of some texts lead to one schema file, which defines at least one kind.  The texts may
be equal, and the file may be spelled in two ways. -/
def ReachTwice (state : σ) (texts : List String) : Prop :=
  ∃ first second paths others path other, [first, second].Sublist texts ∧
    StandsFor state first paths ∧ StandsFor state second others ∧
    path ∈ paths ∧ other ∈ others ∧
    textAt state path = textAt state other ∧ definitionsAt state path ≠ []

variable {invocation : Invocation}

/-- A text that is refused is the end of loading: the state is as before. -/
theorem load_of_blames (still : Looks (fun state : σ => state)) {failure : GlobFailure}
    (blames : Blames state invocation.inputs failure) :
    outcomeIn state (load invocation) = (.error (.inputs failure), state) := by
  apply outcomeIn_bind_of_error
  rw [outcomeIn_adapt, expandAll_of_blames still blames]
  rfl

/-- Loading goes on with the files that the texts stand for. -/
theorem load_of_standFor (still : Looks (fun state : σ => state)) {parts : List (List Path)}
    (stand : List.Forall₂ (StandsFor state) invocation.inputs parts) :
    outcomeIn state (load invocation) =
      outcomeIn state (do
        let registry ← perform (Registry.load parts.flatten)
        let config ← perform (Config.load invocation.config)
        return (registry, config)) := by
  apply outcomeIn_bind_of_ok
  rw [outcomeIn_adapt, expandAll_of_standFor still stand]
  rfl

/-- A file that two of the texts lead to makes loading fail as soon as it defines a kind. -/
theorem load_of_reachTwice (quiet : Quiet σ) (twice : ReachTwice state invocation.inputs) :
    ∃ failure, (outcomeIn state (load invocation)).1 = .error failure := by
  cases standFor_or_blames state invocation.inputs with
  | inr blames =>
      obtain ⟨failure, blames⟩ := blames
      rw [load_of_blames quiet.looks blames]
      exact ⟨_, rfl⟩
  | inl stand =>
      obtain ⟨parts, stand⟩ := stand
      obtain ⟨first, second, paths, others, path, other, inOrder, stands, stands', member,
        member', same, defines⟩ := twice
      obtain ⟨chosen, given, kept⟩ := exists_sublist_of_standFor stand inOrder
      have reached : [path, other].Sublist parts.flatten := by
        cases given with
        | cons given rest =>
            cases rest with
            | cons given' rest =>
                cases rest
                rw [← stands.unique quiet.looks given, ← stands'.unique quiet.looks given'] at kept
                have pair := (List.singleton_sublist.2 member).append
                  (List.singleton_sublist.2 member')
                exact (by simpa using pair : [path, other].Sublist [paths, others].flatten).trans
                  kept.flatten
      obtain ⟨failure, failed⟩ := Registry.load_of_twice quiet reached same defines
      have stopped : outcomeIn state (perform (Registry.load parts.flatten)) =
          (.error (.run failure), (outcomeIn state (Registry.load parts.flatten)).2) := by
        rw [perform, outcomeIn_adapt, failed]
        rfl
      refine ⟨.run failure, ?_⟩
      rw [load_of_standFor quiet.looks stand, outcomeIn_bind_of_error stopped]

/-- **Input texts are expanded one behind the other, in the order in which they are given.**

They can be expanded exactly if every text that is a glob is a valid one, whose walk meets no
error and yields a path.  A text that is no glob then stands for itself, and a glob for the
paths that it yields, in the order of paths; and all texts together for these lists, joined.
Otherwise the first text that is refused decides the failure, which is the failure of the
whole loading: no file has been read, as even a machine on which reading leaves a trace is in
the state in which it was.

So a schema file that defines a kind and is reached by two of the texts makes loading fail. -/
theorem inputs_expand_in_order (quiet : Quiet σ) (state : σ) (invocation : Invocation) :
    ((∃ paths, outcomeIn state (expandAll invocation.inputs) = (.ok paths, state)) ↔
      ∀ text ∈ invocation.inputs, IsGlob text →
        ∃ found, Yields state text found ∧ found ≠ []) ∧
    (∀ paths, outcomeIn state (expandAll invocation.inputs) = (.ok paths, state) ↔
      ∃ parts, List.Forall₂ (StandsFor state) invocation.inputs parts ∧
        paths = parts.flatten) ∧
    (∀ texts more, (expandAll (texts ++ more) : ExceptT GlobFailure (StateM σ) (List Path)) = (do
      let paths ← expandAll texts
      let others ← expandAll more
      return paths ++ others)) ∧
    (∀ failure, outcomeIn state (expandAll invocation.inputs) = (.error failure, state) ↔
      Blames state invocation.inputs failure) ∧
    (∀ failure, Blames state invocation.inputs failure →
      outcomeIn state (load invocation) = (.error (.inputs failure), state)) ∧
    (ReachTwice state invocation.inputs →
      ∃ failure, (outcomeIn state (load invocation)).1 = .error failure) := by
  refine ⟨exists_expandAll_eq_ok_iff quiet.looks, ?_, expandAll_append, ?_, ?_,
    load_of_reachTwice quiet⟩
  · intro paths
    exact expandAll_eq_ok_iff quiet.looks
  · intro failure
    exact expandAll_eq_error_iff quiet.looks
  · intro failure
    exact load_of_blames quiet.looks

/-- A file that a glob and a path with a dot in front both lead to, and a pattern that is
invalid between a path and a glob. -/
theorem inputs_expand_in_order_of_two_files :
    let session : Session :=
      { tree := .directory
          [("a.json", .file "\x7b\"nodes\": \x7b\"Leaf\": \x7b\x7d\x7d\x7d".toUTF8),
            ("b.json", .file "\x7b\x7d".toUTF8)] }
    let request (inputs : List String) : Invocation :=
      { verb := .generate, inputs, config := none, outDir := .current
        out := none, check := false, noOp := false }
    let twice := request ["*.json", "./a.json"]
    let broken := request ["a.json", "[", "*"]
    let failure : GlobFailure := .invalid { position := 0, mistake := .invalidRange }
    Quiet Session ∧
      outcomeIn session (expandAll twice.inputs) =
        (.ok [⟨"a.json"⟩, ⟨"b.json"⟩, ⟨"./a.json"⟩], session) ∧
      ReachTwice session twice.inputs ∧
      (∃ failure, (outcomeIn session (load twice)).1 = .error failure) ∧
      Blames session broken.inputs failure ∧
      outcomeIn session (load broken) = (.error (.inputs failure), session) := by
  intro session request twice broken failure
  obtain ⟨-, expands, -⟩ := inputs_expand_in_order Session.quiet session twice
  obtain ⟨-, -, -, -, -, fails⟩ := inputs_expand_in_order Session.quiet session twice
  obtain ⟨-, -, -, -, refuses, -⟩ := inputs_expand_in_order Session.quiet session broken
  let search : Search :=
    { start := .current
      components := [⟨.anySequence :: ".json".toList.map .char⟩]
      directoriesOnly := false }
  have glob : StandsFor session "*.json" [⟨"a.json"⟩, ⟨"b.json"⟩] :=
    .arranged ⟨'*', by decide, .inl rfl⟩ ⟨search, by decide +kernel, by decide +kernel⟩
      (List.cons_ne_nil _ _) ⟨.refl _, by decide, fun _ => rfl⟩
  have dotted : StandsFor session "./a.json" [⟨"./a.json"⟩] := .itself (by
    rw [← any_isGlobChar_iff]
    decide)
  have reached : ReachTwice session twice.inputs :=
    ⟨_, _, _, _, ⟨"a.json"⟩, ⟨"./a.json"⟩, .refl _, glob, dotted, by decide, by decide,
      Session.textAt_eq_of_locate_eq (by decide +kernel), by decide +kernel⟩
  have blames : Blames session broken.inputs failure := by
    refine ⟨["a.json"], "[", ["*"], rfl, ?_, .invalid ⟨'[', by decide, ?_⟩ (by decide +kernel)⟩
    · rw [List.forall_mem_singleton]
      refine ⟨_, .itself ?_⟩
      rw [← any_isGlobChar_iff]
      decide
    · decide
  exact ⟨Session.quiet, (expands _).2 ⟨_, .cons glob (.cons dotted .nil), rfl⟩, reached,
    fails reached, blames, refuses _ blames⟩

end Command

end NodeDecl
