import NodeDecl.Failure
import NodeDecl.Host.Session

/-!
# What runs leave behind

A computation that may fail comes to an outcome and a state, whatever its failures and its
states are; on a session the state is the session behind it.  Most computations leave the
state alone, or at least everything that some observation of it shows; such observations are
followed through all ways of putting computations together.
-/

namespace NodeDecl

variable {σ α β γ δ ε : Type}

/-! ## Outcomes -/

/-- What a computation that may fail comes to in a state, and the state behind it. -/
def outcomeIn (state : σ) (action : ExceptT ε (StateM σ) α) : Except ε α × σ :=
  Id.run (StateT.run (ExceptT.run action) state)

/-- One computation after the other: the second does not run if the first fails. -/
theorem outcomeIn_bind (state : σ) (first : ExceptT ε (StateM σ) α)
    (next : α → ExceptT ε (StateM σ) β) :
    outcomeIn state (first >>= next) =
      match outcomeIn state first with
      | (.ok value, later) => outcomeIn later (next value)
      | (.error failure, later) => (.error failure, later) := by
  have unfolded : outcomeIn state (first >>= next) =
      Id.run (StateT.run (ExceptT.bindCont next (outcomeIn state first).1 :
        StateM σ (Except ε β)) (outcomeIn state first).2) := rfl
  rw [unfolded]
  cases result : outcomeIn state first with
  | mk outcome later =>
      cases outcome with
      | ok value => rfl
      | error failure => rfl

theorem outcomeIn_bind_of_ok {state later : σ} {first : ExceptT ε (StateM σ) α} {value : α}
    (done : outcomeIn state first = (.ok value, later)) (next : α → ExceptT ε (StateM σ) β) :
    outcomeIn state (first >>= next) = outcomeIn later (next value) := by
  rw [outcomeIn_bind, done]

theorem outcomeIn_bind_of_error {state later : σ} {first : ExceptT ε (StateM σ) α} {failure : ε}
    (failed : outcomeIn state first = (.error failure, later))
    (next : α → ExceptT ε (StateM σ) β) :
    outcomeIn state (first >>= next) = (.error failure, later) := by
  rw [outcomeIn_bind, failed]

/-- Computations one after the other end with the failure of the first, or as the second
does behind it. -/
theorem outcomeIn_bind_cases {state last : σ} {first : ExceptT ε (StateM σ) α}
    {next : α → ExceptT ε (StateM σ) β} {outcome : Except ε β}
    (done : outcomeIn state (first >>= next) = (outcome, last)) :
    (∃ failure, outcomeIn state first = (.error failure, last) ∧ outcome = .error failure) ∨
      ∃ value later, outcomeIn state first = (.ok value, later) ∧
        outcomeIn later (next value) = (outcome, last) := by
  rw [outcomeIn_bind] at done
  cases ahead : outcomeIn state first with
  | mk result later =>
      rw [ahead] at done
      cases result with
      | ok value => exact .inr ⟨value, later, rfl, done⟩
      | error failure =>
          cases done
          exact .inl ⟨failure, rfl, rfl⟩

/-- Computations one after the other succeed if both do. -/
theorem outcomeIn_bind_eq_ok {state last : σ} {first : ExceptT ε (StateM σ) α}
    {next : α → ExceptT ε (StateM σ) β} {result : β}
    (done : outcomeIn state (first >>= next) = (.ok result, last)) :
    ∃ value later, outcomeIn state first = (.ok value, later) ∧
      outcomeIn later (next value) = (.ok result, last) := by
  rcases outcomeIn_bind_cases done with ⟨_, -, absurdity⟩ | rest
  · cases absurdity
  · exact rest

/-- A failure with other words for it leaves the same behind. -/
theorem outcomeIn_adapt (state : σ) (words : ε → δ) (action : ExceptT ε (StateM σ) α) :
    outcomeIn state (action.adapt words) =
      ((outcomeIn state action).1.mapError words, (outcomeIn state action).2) := rfl

/-- A last step that only changes the result. -/
theorem outcomeIn_bind_pure (state : σ) (action : ExceptT ε (StateM σ) α) (image : α → β) :
    outcomeIn state (action >>= fun value => pure (image value)) =
      ((outcomeIn state action).1.map image, (outcomeIn state action).2) := by
  rw [outcomeIn_bind]
  cases outcomeIn state action with
  | mk outcome later =>
      cases outcome with
      | ok value => rfl
      | error failure => rfl

/-! ## What is kept -/

/-- A computation after which an observation of the state shows what it showed before. -/
def Keeps (observe : σ → γ) (program : StateM σ α) : Prop :=
  ∀ state, observe (Id.run (program.run state)).2 = observe state

section

variable {observe : σ → γ}

theorem keeps_pure (value : α) : Keeps observe (pure value : StateM σ α) := fun _ => rfl

theorem Keeps.bind {first : StateM σ α} {next : α → StateM σ β}
    (keepsFirst : Keeps observe first) (keepsNext : ∀ value, Keeps observe (next value)) :
    Keeps observe (first >>= next) :=
  fun state => (keepsNext _ _).trans (keepsFirst state)

theorem Keeps.map {program : StateM σ α} (image : α → β) (keeps : Keeps observe program) :
    Keeps observe (image <$> program) :=
  fun state => keeps state

/-! ### Computations that may fail -/

theorem keeps_run_pure (value : α) :
    Keeps observe (ExceptT.run (pure value : ExceptT ε (StateM σ) α)) :=
  keeps_pure _

theorem keeps_run_throw (failure : ε) :
    Keeps observe (ExceptT.run (throw failure : ExceptT ε (StateM σ) α)) :=
  keeps_pure _

theorem Keeps.run_bind {first : ExceptT ε (StateM σ) α}
    {next : α → ExceptT ε (StateM σ) β} (keepsFirst : Keeps observe first.run)
    (keepsNext : ∀ value, Keeps observe (next value).run) :
    Keeps observe (first >>= next).run := by
  rw [ExceptT.run_bind]
  apply keepsFirst.bind
  intro outcome
  cases outcome with
  | ok value => exact keepsNext value
  | error failure => exact keeps_pure _

theorem Keeps.run_adapt {action : ExceptT ε (StateM σ) α} (words : ε → δ)
    (keeps : Keeps observe action.run) : Keeps observe (action.adapt words).run :=
  keeps.map _

theorem Keeps.run_lift {program : StateM σ α} (keeps : Keeps observe program) :
    Keeps observe (ExceptT.run (ExceptT.lift program : ExceptT ε (StateM σ) α)) :=
  keeps.map _

/-- What every turn of a loop keeps, the loop keeps. -/
theorem keeps_run_mapM {step : α → ExceptT ε (StateM σ) β} {values : List α}
    (keeps : ∀ value ∈ values, Keeps observe (step value).run) :
    Keeps observe (values.mapM step).run := by
  induction values with
  | nil =>
      rw [List.mapM_nil]
      exact keeps_run_pure _
  | cons first rest ih =>
      rw [List.forall_mem_cons] at keeps
      rw [List.mapM_cons]
      apply keeps.1.run_bind
      intro image
      apply (ih keeps.2).run_bind
      intro images
      exact keeps_run_pure _

/-- A computation leaves what it keeps, whether it fails or not. -/
theorem Keeps.outcomeIn {action : ExceptT ε (StateM σ) α} {state last : σ}
    {outcome : Except ε α} (keeps : Keeps observe action.run)
    (done : outcomeIn state action = (outcome, last)) : observe last = observe state := by
  have same := keeps state
  rwa [show Id.run (action.run.run state) = (outcome, last) from done] at same

end

namespace Session

/-- What a computation that may fail comes to on a session, and the session behind it. -/
def carryOut (session : Session) (action : ExceptT ε (StateM Session) α) :
    Except ε α × Session :=
  Id.run (StateT.run (ExceptT.run action) session)

/-- One computation after the other: the second does not run if the first fails. -/
theorem carryOut_bind (session : Session) (first : ExceptT ε (StateM Session) α)
    (next : α → ExceptT ε (StateM Session) β) :
    session.carryOut (first >>= next) =
      match session.carryOut first with
      | (.ok value, later) => later.carryOut (next value)
      | (.error failure, later) => (.error failure, later) := by
  change outcomeIn session (first >>= next) = _
  rw [outcomeIn_bind, show outcomeIn session first = session.carryOut first from rfl]
  cases session.carryOut first with
  | mk outcome later =>
      cases outcome with
      | ok value => rfl
      | error failure => rfl

/-- A failure with other words for it leaves the same behind. -/
theorem carryOut_adapt (session : Session) (words : ε → δ)
    (action : ExceptT ε (StateM Session) α) :
    session.carryOut (action.adapt words) =
      ((session.carryOut action).1.mapError words, (session.carryOut action).2) :=
  outcomeIn_adapt session words action

/-- Computations one after the other end with the failure of the first, or as the second
does behind it. -/
theorem carryOut_bind_cases {session last : Session} {first : ExceptT ε (StateM Session) α}
    {next : α → ExceptT ε (StateM Session) β} {outcome : Except ε β}
    (done : session.carryOut (first >>= next) = (outcome, last)) :
    (∃ failure, session.carryOut first = (.error failure, last) ∧ outcome = .error failure) ∨
      ∃ value later, session.carryOut first = (.ok value, later) ∧
        later.carryOut (next value) = (outcome, last) :=
  outcomeIn_bind_cases done

/-! ## Requests to a session -/

/-- A question changes nothing at all. -/
theorem keeps_inspect (observe : Session → γ) (question : FileTree → List String → α) :
    Keeps observe (inspect question) :=
  fun _ => rfl

/-- A change that is refused leaves the session as it is. -/
theorem run_changeHere (request : FileTree → List String → Except Fault FileTree)
    (session : Session) :
    Id.run ((changeHere request).run session) =
      match request session.tree session.directory with
      | .ok tree => (.ok (), { session with tree })
      | .error fault => (.error fault, session) := by
  cases granted : request session.tree session.directory with
  | ok tree => simp [changeHere, change, granted]
  | error fault => simp [changeHere, change, granted]

/-- The tree of a session and the place of the current directory in it. -/
def surroundings (session : Session) : FileTree × List String :=
  (session.tree, session.directory)

end Session

/-- A computation that keeps the surroundings leaves the tree, whether it fails or not. -/
theorem Keeps.same_tree {action : ExceptT ε (StateM Session) α} {session last : Session}
    {outcome : Except ε α} (keeps : Keeps Session.surroundings action.run)
    (done : session.carryOut action = (outcome, last)) : last.tree = session.tree :=
  congrArg Prod.fst (keeps.outcomeIn done)

/-! ## Services -/

/-- A machine on which looking at the files keeps what an observation shows. -/
structure Looks [Host (StateM σ)] (observe : σ → γ) : Prop where
  contains : ∀ path, Keeps observe (Host.contains path : StateM σ Bool)
  isDirectory : ∀ path, Keeps observe (Host.isDirectory path : StateM σ Bool)
  entryNames : ∀ path,
    Keeps observe (Host.entryNames path : StateM σ (Except Fault (List String)))

namespace Looks

variable [Host (StateM σ)] {observe : σ → γ}

theorem run_contains (looks : Looks observe) (path : Path) :
    Keeps observe (ExceptT.run (Host.contains path : ExceptT ε (StateM σ) Bool)) :=
  (looks.contains path).run_lift

theorem run_isDirectory (looks : Looks observe) (path : Path) :
    Keeps observe (ExceptT.run (Host.isDirectory path : ExceptT ε (StateM σ) Bool)) :=
  (looks.isDirectory path).run_lift

theorem run_entryNames (looks : Looks observe) (path : Path) :
    Keeps observe (ExceptT.run
      (Host.entryNames path : ExceptT ε (StateM σ) (Except Fault (List String)))) :=
  (looks.entryNames path).run_lift

end Looks

/-- What reading the file at a path gives. -/
def textAt [Host (StateM σ)] (state : σ) (path : Path) : Except Fault String :=
  (Id.run ((Host.readText path : StateM σ (Except Fault String)).run state)).1

/-- A machine whose files stay as they are while a command reads them.  Looking at the files
changes nothing; reading them and reporting may leave a trace in the state, but every file
still gives the same text. -/
structure Quiet (σ : Type) [Host (StateM σ)] : Prop where
  looks : Looks (fun state : σ => state)
  readText : ∀ path, Keeps textAt (Host.readText path : StateM σ (Except Fault String))
  log : ∀ entry, Keeps textAt (Host.log entry : StateM σ Unit)

namespace Session

/-- Looking at the tree of a session changes nothing at all. -/
theorem looks (observe : Session → γ) : Looks observe where
  contains _ := keeps_inspect observe _
  isDirectory _ := keeps_inspect observe _
  entryNames _ := keeps_inspect observe _

/-- Paths that lead to one place give one text, however they are spelled. -/
theorem textAt_eq_of_locate_eq {session : Session} {path other : Path}
    (same : session.tree.locate path session.directory =
      session.tree.locate other session.directory) :
    textAt session path = textAt session other := by
  change session.tree.readText path session.directory =
    session.tree.readText other session.directory
  rw [FileTree.readText, FileTree.readText, FileTree.lookup, FileTree.lookup, same]

/-- The files of a session stay as they are. -/
theorem quiet : Quiet Session where
  looks := looks _
  readText _ := keeps_inspect textAt _
  log _ _ := rfl

end Session

theorem keeps_readText (path : Path) :
    Keeps Session.surroundings (Host.readText path : StateM Session (Except Fault String)) :=
  Session.keeps_inspect _ _

theorem keeps_run_log (entry : LogEntry) :
    Keeps Session.surroundings (ExceptT.run (Host.log entry : ExceptT ε (StateM Session) Unit)) :=
  fun _ => rfl

theorem keeps_run_print (line : String) :
    Keeps Session.surroundings (ExceptT.run (Host.print line : ExceptT ε (StateM Session) Unit)) :=
  fun _ => rfl

namespace Action

variable {observe : σ → γ}

theorem keeps_request (path : Path) {service : StateM σ (Except Fault α)}
    (keeps : Keeps observe service) :
    Keeps observe (ExceptT.run (request path service : Action (StateM σ) α)) := by
  apply keeps.bind
  intro outcome
  cases outcome with
  | ok value => exact keeps_pure _
  | error fault => exact keeps_pure _

theorem keeps_ofExcept (outcome : Except Failure α) :
    Keeps observe (ExceptT.run (ofExcept outcome : Action (StateM σ) α)) :=
  keeps_pure _

end Action

end NodeDecl
