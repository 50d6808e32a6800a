import NodeDecl.Proofs.Artifact.Generation
import NodeDecl.Proofs.Command.Generate

/-!
# What a command line changes

Both commands read, build and only then write.  A command line that changes the tree has
come to its writing, so everything before that has succeeded: its patterns have been
expanded, the schemas and the configuration loaded, and the model built.  What fails before
the writing fails on the tree as it was.
-/

namespace NodeDecl.Command

open Session Artifacts

variable {α δ ε : Type} {invocation : Invocation} {session last : Session}

/-! ## Command lines -/

/-- What a command line comes to on a session, and the session behind it.  Nothing is done
for one that is refused. -/
def obey (session : Session) (arguments : List String) :
    Except Usage (Except CommandFailure Unit) × Session :=
  match parse arguments with
  | .error usage => (.error usage, session)
  | .ok invocation =>
      (.ok (session.carryOut (run invocation)).1, (session.carryOut (run invocation)).2)

/-- A command that is there to write: `generate` without a check, or `model` with a file to
write to, and not only to show its settings. -/
structure Writes (invocation : Invocation) : Prop where
  notShown : invocation.noOp = false
  verb : invocation.verb = .generate ∧ invocation.check = false ∨
    invocation.verb = .model ∧ invocation.out.isSome

/-- A failure of the input, of what is made of it or of a check, and not of a file that is
read or written. -/
inductive IsVerdict : CommandFailure → Prop
  | inputs (failure : Glob.GlobFailure) : IsVerdict (.inputs failure)
  | glob (failure : Glob.GlobFailure) : IsVerdict (.run (.glob failure))
  | schema (origin : String) (error : Json.ParseError) : IsVerdict (.run (.schema origin error))
  | config (origin : String) (error : Json.ParseError) : IsVerdict (.run (.config origin error))
  | duplicateKind (kind : String) (first second : Path) :
      IsVerdict (.run (.duplicateKind kind first second))
  | missingField (kind field : String) : IsVerdict (.run (.build (.missingField kind field)))
  | invalidIdentifier (name : String) : IsVerdict (.run (.build (.invalidIdentifier name)))
  | stale (paths : List Path) : IsVerdict (.run (.stale paths))

/-! ## Stages in front of the writing -/

/-- The stages of a command up to its model, all of them successful, each on the session
behind the one before. -/
structure Built (invocation : Invocation) (session : Session) where
  paths : List Path
  registry : Registry
  config : Config
  model : Model
  expanded : Session
  loaded : Session
  configured : Session
  expands : session.carryOut (Glob.expandAll invocation.inputs) = (.ok paths, expanded)
  loads : expanded.carryOut (Registry.load paths) = (.ok registry, loaded)
  configures : loaded.carryOut (Config.load invocation.config) = (.ok config, configured)
  builds : (registry.build config).outcome = .ok model

/-- A success stays one whatever the words for failures are. -/
theorem carryOut_adapt_eq_ok {words : ε → δ} {action : ExceptT ε (StateM Session) α} {value : α}
    (done : session.carryOut (action.adapt words) = (.ok value, last)) :
    session.carryOut action = (.ok value, last) := by
  rw [carryOut_adapt] at done
  cases ran : session.carryOut action with
  | mk outcome later =>
      rw [ran] at done
      cases outcome with
      | ok result =>
          cases done
          rfl
      | error failure => cases done

/-- Input that is loaded and comes to a model has passed all stages. -/
theorem Built.of_load {registry : Registry} {config : Config} {model : Model} {loaded : Session}
    (loads : session.carryOut (load invocation) = (.ok (registry, config), loaded))
    (builds : (registry.build config).outcome = .ok model) :
    Nonempty (Built invocation session) := by
  rw [load] at loads
  rcases carryOut_bind_cases loads with ⟨_, -, absurdity⟩ | ⟨paths, expanded, expands, loads⟩
  · cases absurdity
  rcases carryOut_bind_cases loads with ⟨_, -, absurdity⟩ | ⟨merged, read, reads, loads⟩
  · cases absurdity
  rcases carryOut_bind_cases loads with ⟨_, -, absurdity⟩ | ⟨settings, configured, sets, loads⟩
  · cases absurdity
  cases loads
  exact ⟨{
    paths, registry, config, model, expanded, loaded := read, configured := loaded
    expands := carryOut_adapt_eq_ok expands
    loads := carryOut_adapt_eq_ok reads
    configures := carryOut_adapt_eq_ok sets
    builds }⟩

/-! ## Writing -/

/-- What is asked of the machine fails with the words for a fault. -/
theorem carryOut_request_error {words : Fault → CommandFailure}
    {service : StateM Session (Except Fault α)} {failure : CommandFailure}
    (refused : session.carryOut (request words service) = (.error failure, last)) :
    ∃ fault, failure = words fault := by
  have outcome := congrArg Prod.fst refused
  rw [request, carryOut_adapt] at outcome
  cases asked : (session.carryOut (ExceptT.mk service)).1 with
  | ok value =>
      rw [asked] at outcome
      cases outcome
  | error fault =>
      rw [asked] at outcome
      cases outcome
      exact ⟨fault, rfl⟩

/-- A file that cannot be written to fails a run in words of its own. -/
theorem carryOut_writeOut_error {path : Path} {text : String} {failure : CommandFailure}
    (failed : session.carryOut (writeOut path text) = (.error failure, last)) :
    ¬ IsVerdict failure := by
  have writing : ∀ {start : Session},
      carryOut start (request (.cannotWrite path) (Host.writeFile path text)) =
        (.error failure, last) → ¬ IsVerdict failure := by
    intro start refused verdict
    rcases carryOut_request_error refused with ⟨fault, rfl⟩
    cases verdict
  rw [writeOut] at failed
  cases above : path.parent? with
  | none =>
      rw [above] at failed
      exact writing failed
  | some parent =>
      rw [above] at failed
      rcases carryOut_bind_cases failed with ⟨other, refused, same⟩ | ⟨_, _, _, refused⟩
      · cases same
        rcases carryOut_request_error refused with ⟨fault, rfl⟩
        intro verdict
        cases verdict
      · exact writing refused

/-- A run of `model` leaves the tree as it is, or it has built its model and comes to
writing it to a file. -/
theorem carryOut_model {outcome : Except CommandFailure Unit}
    (done : session.carryOut (model invocation) = (outcome, last)) :
    last.tree = session.tree ∨
      Nonempty (Built invocation session) ∧
        ∃ path text start, invocation.out = some path ∧
          carryOut start (writeOut path text) = (outcome, last) := by
  rw [model] at done
  rcases carryOut_bind_cases done with ⟨_, stopped, -⟩ | ⟨⟨registry, config⟩, loaded, loads, done⟩
  · exact .inl ((keeps_load invocation).same_tree stopped)
  have sameLoaded : loaded.surroundings = session.surroundings :=
    (keeps_load invocation).outcomeIn loads
  rcases carryOut_settle (registry.build config) loaded with ⟨settled, settles, sameSettled⟩
  rw [carryOut_bind, settles] at done
  cases builds : (registry.build config).outcome with
  | error error =>
      rw [builds] at done
      cases done
      exact .inl (congrArg Prod.fst (sameSettled.trans sameLoaded))
  | ok model =>
      simp only [builds, Except.mapError] at done
      rcases carryOut_bind_cases done with ⟨_, reported, -⟩ | ⟨_, start, reported, done⟩
      · cases reported
      have same : start.surroundings = session.surroundings :=
        ((keeps_run_log _).outcomeIn reported).trans (sameSettled.trans sameLoaded)
      split at done
      · next path out => exact .inr ⟨Built.of_load loads builds, path, _, start, out, done⟩
      · exact .inl (congrArg Prod.fst (((keeps_run_print _).outcomeIn done).trans same))

/-- A run leaves the tree as it is, or it is there to write, has passed all stages up to its
model, and fails at a file if it fails. -/
theorem carryOut_run {outcome : Except CommandFailure Unit}
    (done : session.carryOut (run invocation) = (outcome, last)) :
    last.tree = session.tree ∨
      Writes invocation ∧ Nonempty (Built invocation session) ∧
        ∀ failure, outcome = .error failure → ¬ IsVerdict failure := by
  rw [run] at done
  split at done
  · cases done
    exact .inl rfl
  · next shown =>
    rw [Bool.not_eq_true] at shown
    cases verb : invocation.verb with
    | generate =>
        rw [verb] at done
        rcases carryOut_generate done with ⟨-, same⟩ | ⟨writing, written, after, places, -, ended⟩
        · exact .inl same
        · refine .inr ⟨⟨shown, .inl ⟨verb, writing.writes⟩⟩,
            Built.of_load writing.loads (Registry.generate_eq_ok_iff.1 writing.generates).1, ?_⟩
          intro failure failed verdict
          rcases carryOut_placeAll places with ⟨placed, behind, whole, ending, files⟩
          subst ended
          cases ending with
          | complete => cases failed
          | refused next rest blamed fault about =>
              cases failed
              cases verdict
    | model =>
        rw [verb] at done
        rcases carryOut_model done with same | ⟨built, path, text, start, out, writing⟩
        · exact .inl same
        · refine .inr ⟨⟨shown, .inr ⟨verb, by rw [out]; rfl⟩⟩, built, ?_⟩
          intro failure failed
          subst failed
          exact carryOut_writeOut_error writing

/-! ## Command lines and their effects -/

/-- A command line that changes anything in the tree is one that writes, and everything in
front of its writing has succeeded.  So a command line that fails at its input, at what is
made of it or at a check leaves the tree exactly as it was. -/
theorem obey_effects (session : Session) (arguments : List String) :
    ((obey session arguments).2.tree ≠ session.tree →
        ∃ invocation, parse arguments = .ok invocation ∧ Writes invocation ∧
          Nonempty (Built invocation session)) ∧
      ∀ failure, (obey session arguments).1 = .ok (.error failure) → IsVerdict failure →
        (obey session arguments).2.tree = session.tree := by
  rw [obey]
  cases parsed : parse arguments with
  | error usage =>
      constructor
      · intro changed
        exact absurd rfl changed
      · intro failure failed
        cases failed
  | ok invocation =>
      dsimp only
      rcases carryOut_run (Prod.eta (session.carryOut (run invocation))).symm with
        same | ⟨writes, built, notVerdict⟩
      · constructor
        · intro changed
          exact absurd same changed
        · intro failure failed verdict
          exact same
      · constructor
        · intro changed
          exact ⟨invocation, rfl, writes, built⟩
        · intro failure failed verdict
          exact absurd verdict (notVerdict failure (Except.ok.inj failed))

/-- A model that is written to a file adds the file, and a kind that is no identifier keeps
`generate` from writing anything. -/
theorem obey_effects_of_two_kinds :
    let good : Session :=
      { tree := .directory
          [("schema.json", .file "\x7b\"nodes\": \x7b\"Leaf\": \x7b\x7d\x7d\x7d".toUTF8)] }
    let bad : Session :=
      { tree := .directory
          [("schema.json", .file "\x7b\"nodes\": \x7b\"0\": \x7b\x7d\x7d\x7d".toUTF8)] }
    (obey good ["model", "-i", "schema.json", "-o", "out/model.json"]).2.tree ≠ good.tree ∧
      (∃ invocation,
        parse ["model", "-i", "schema.json", "-o", "out/model.json"] = .ok invocation ∧
          Writes invocation ∧ Nonempty (Built invocation good)) ∧
      (obey bad ["generate", "-i", "schema.json"]).1 =
        .ok (.error (.run (.build (.invalidIdentifier "0")))) ∧
      (obey bad ["generate", "-i", "schema.json"]).2.tree = bad.tree := by
  intro good bad
  have changed :
      (obey good ["model", "-i", "schema.json", "-o", "out/model.json"]).2.tree ≠ good.tree := by
    intro same
    have added : ((obey good ["model", "-i", "schema.json", "-o", "out/model.json"]).2.tree.contents
        ["out", "model.json"]).isSome = true := by
      decide +kernel
    rw [same] at added
    cases added
  have failed : (obey bad ["generate", "-i", "schema.json"]).1 =
      .ok (.error (.run (.build (.invalidIdentifier "0")))) := by
    decide +kernel
  exact ⟨changed, (obey_effects good _).1 changed, failed,
    (obey_effects bad _).2 _ failed (.invalidIdentifier "0")⟩

end NodeDecl.Command
