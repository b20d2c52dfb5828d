import ValidityTables.Session

/-! # How the steps of a run compose

A step that fails ends the steps after it and keeps what it did to the session. The equations here
open a run of several steps at a given session, so that no later proof unfolds the monad of steps.
-/

namespace ValidityTables.Action

variable {ε σ α β : Type}

theorem bind_apply (action : ExceptT ε (StateM (Session σ)) α)
    (next : α → ExceptT ε (StateM (Session σ)) β) (session : Session σ) :
    (action >>= next) session = match action session with
      | (.ok a, session) => next a session
      | (.error e, session) => (.error e, session) := by
  simp only [bind, ExceptT.bind, ExceptT.mk, StateT.bind]
  rcases action session with ⟨_ | _, _⟩ <;> rfl

theorem tryCatch_apply (action : Action σ α) (handle : UpdateError → Action σ α)
    (session : Session σ) :
    (tryCatch action handle) session = match action session with
      | (.ok a, session) => (.ok a, session)
      | (.error e, session) => handle e session := by
  simp only [tryCatch, tryCatchThe, MonadExceptOf.tryCatch, ExceptT.tryCatch, ExceptT.mk, bind,
    StateT.bind]
  rcases action session with ⟨_ | _, _⟩ <;> rfl

theorem discard_apply (action : Action σ α) (session : Session σ) :
    (discard action : Action σ Unit) session =
      ((action session).1.map fun _ => (), (action session).2) := by
  change (action >>= fun _ => pure ()) session = _
  rw [bind_apply]
  rcases action session with ⟨_ | _, _⟩ <;> rfl

theorem pure_apply (a : α) (session : Session σ) :
    (pure a : Action σ α) session = (.ok a, session) := rfl

theorem lift_apply (action : StateM (Session σ) α) (session : Session σ) :
    (ExceptT.lift action : Action σ α) session = (.ok (action session).1, (action session).2) := rfl

theorem mk_pure_apply (result : Except UpdateError α) (session : Session σ) :
    (ExceptT.mk (pure result) : Action σ α) session = (result, session) := rfl

/-- Steps that cannot fail compose as functions of the session. -/
theorem state_bind_apply (action : StateM (Session σ) α) (next : α → StateM (Session σ) β)
    (session : Session σ) :
    (action >>= next) session = next (action session).1 (action session).2 := rfl

end ValidityTables.Action
