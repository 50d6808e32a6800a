import NodeDecl.Proofs.Host.Runs

/-!
# Running parts of a command

What the parts of a command come to when they run: a request gives what its service gives,
and a failure is blamed on the path that the request is about.
-/

namespace NodeDecl

namespace Action

variable {α : Type}

/-- What a part of a run comes to on a session, and the session behind it. -/
def on (action : Action (StateM Session) α) (session : Session) :
    Except Failure α × Session :=
  Id.run (StateT.run (ExceptT.run action) session)

/-- An outcome comes to itself. -/
theorem outcomeIn_ofExcept {σ : Type} (state : σ) (outcome : Except Failure α) :
    outcomeIn state (ofExcept outcome) = (outcome, state) := rfl

/-- A request gives what the service gives, with the path put to its fault. -/
theorem outcomeIn_request {σ : Type} (path : Path) (service : StateM σ (Except Fault α))
    (state : σ) :
    outcomeIn state (request path service) =
      ((Id.run (service.run state)).1.mapError (.io path), (Id.run (service.run state)).2) := by
  simp only [outcomeIn, request, ExceptT.run_mk, StateT.run_bind, Id.run_bind]
  cases (service.run state).run with
  | mk outcome later =>
      cases outcome with
      | ok value => rfl
      | error fault => rfl

/-- A request that fails does so with a fault of the path that it is about. -/
theorem outcomeIn_request_eq_error {σ : Type} {path : Path}
    {service : StateM σ (Except Fault α)} {state last : σ} {failure : Failure}
    (failed : outcomeIn state (request path service) = (.error failure, last)) :
    ∃ fault, failure = .io path fault ∧ Id.run (service.run state) = (.error fault, last) := by
  rw [outcomeIn_request] at failed
  cases result : Id.run (service.run state) with
  | mk outcome later =>
      rw [result] at failed
      cases outcome with
      | ok value => cases failed
      | error fault =>
          cases failed
          exact ⟨fault, rfl, rfl⟩

/-- A request that succeeds gives what the service gives. -/
theorem outcomeIn_request_eq_ok {σ : Type} {path : Path} {service : StateM σ (Except Fault α)}
    {state last : σ} {value : α}
    (done : outcomeIn state (request path service) = (.ok value, last)) :
    Id.run (service.run state) = (.ok value, last) := by
  rw [outcomeIn_request] at done
  cases result : Id.run (service.run state) with
  | mk outcome later =>
      rw [result] at done
      cases outcome with
      | ok found =>
          cases done
          rfl
      | error fault => cases done

end Action

end NodeDecl
