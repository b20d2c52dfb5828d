import ValidityTables.Proofs.Action
import ValidityTables.Proofs.Calls

/-! # Events of a run

An event is a statement with what it came to, however often it had to be sent, a request for a
sequence number, or a reading of the clock. A run is described by its events: `Backend.Traces` says
that they are what the calls of the run amount to. Each operation of a session has one theorem about
its events.
-/

namespace ValidityTables

variable {σ : Type}

/-- These answers to a statement, of which `left` more may be asked for, settle what it comes to.
A lost connection asks for the next attempt, and any other answer is the last one. -/
inductive Resolves (attempts : Nat) (sql : String) :
    Nat → List (Except UpdateError Reply) → Except UpdateError (List String) → Prop
  | exhausted : Resolves attempts sql 0 [] (.error (.transientExhausted attempts sql))
  | unreachable {left : Nat} (e : UpdateError) :
      Resolves attempts sql (left + 1) [.error e] (.error e)
  | lost {left : Nat} {reply : Reply} {answers : List (Except UpdateError Reply)}
      {outcome : Except UpdateError (List String)} :
      reply.connectionLost = true → Resolves attempts sql left answers outcome →
      Resolves attempts sql (left + 1) (.ok reply :: answers) outcome
  | succeeded {left : Nat} {reply : Reply} : reply.succeeded = true →
      Resolves attempts sql (left + 1) [.ok reply] (.ok reply.lines)
  | rejected {left : Nat} {reply : Reply} :
      reply.connectionLost = false → reply.succeeded = false →
      Resolves attempts sql (left + 1) [.ok reply]
        (.error (.execution sql reply.exitCode reply.lines))

/-- A statement that may be sent at all is answered. -/
theorem Resolves.answered {attempts left : Nat} {sql : String}
    {answers : List (Except UpdateError Reply)} {outcome : Except UpdateError (List String)}
    (h : Resolves attempts sql left answers outcome) (hLeft : 1 ≤ left) : answers ≠ [] := by
  cases h with
  | exhausted => cases hLeft
  | unreachable | lost | succeeded | rejected => exact List.cons_ne_nil _ _

inductive Event
  | statement (sql : String) (outcome : Except UpdateError (List String))
  | request (table : String) (scope : Scope) (answer : Except UpdateError UInt32)
  | clock (date : String)

/-- The calls that make up a list of events. A statement is sent until it is settled. -/
inductive Realizes (attempts : Nat) : List Event → List Call → Prop
  | nil : Realizes attempts [] []
  | statement {sql : String} {answers : List (Except UpdateError Reply)}
      {outcome : Except UpdateError (List String)} {events : List Event} {calls : List Call} :
      Resolves attempts sql attempts answers outcome → Realizes attempts events calls →
      Realizes attempts (.statement sql outcome :: events) (answers.map (.execute sql) ++ calls)
  | request {table : String} {scope : Scope} {answer : Except UpdateError UInt32}
      {events : List Event} {calls : List Call} : Realizes attempts events calls →
      Realizes attempts (.request table scope answer :: events)
        (.allocate table scope answer :: calls)
  | clock {date : String} {events : List Event} {calls : List Call} :
      Realizes attempts events calls →
      Realizes attempts (.clock date :: events) (.clock date :: calls)

theorem Realizes.append {attempts : Nat} {before later : List Event} {first second : List Call}
    (h : Realizes attempts before first) (hLater : Realizes attempts later second) :
    Realizes attempts (before ++ later) (first ++ second) := by
  induction h with
  | nil => exact hLater
  | statement hResolves _ ih =>
    rw [List.append_assoc]
    exact .statement hResolves ih
  | request _ ih => exact .request ih
  | clock _ ih => exact .clock ih

theorem Realizes.split {attempts : Nat} {before later : List Event} {calls : List Call}
    (h : Realizes attempts (before ++ later) calls) :
    ∃ first second, calls = first ++ second ∧ Realizes attempts before first ∧
      Realizes attempts later second := by
  induction before generalizing calls with
  | nil => exact ⟨[], calls, rfl, .nil, h⟩
  | cons event rest ih =>
    cases h with
    | statement hResolves hRest =>
      obtain ⟨first, second, rfl, hBefore, hLater⟩ := ih hRest
      exact ⟨_, second, (List.append_assoc _ _ _).symm, .statement hResolves hBefore, hLater⟩
    | request hRest =>
      obtain ⟨first, second, rfl, hBefore, hLater⟩ := ih hRest
      exact ⟨_, second, rfl, .request hBefore, hLater⟩
    | clock hRest =>
      obtain ⟨first, second, rfl, hBefore, hLater⟩ := ih hRest
      exact ⟨_, second, rfl, .clock hBefore, hLater⟩

/-- The calls of a single statement are its attempts. -/
theorem Realizes.answers {attempts : Nat} {sql : String}
    {outcome : Except UpdateError (List String)} {calls : List Call}
    (h : Realizes attempts [.statement sql outcome] calls) :
    ∃ answers, calls = answers.map (.execute sql) ∧
      Resolves attempts sql attempts answers outcome := by
  obtain _ | ⟨hResolves, hNil⟩ := h
  cases hNil
  exact ⟨_, List.append_nil _, hResolves⟩

/-- Where all events are statements, so are the calls. -/
theorem Realizes.statements {attempts : Nat} {events : List Event} {calls : List Call}
    {P : String → Prop} (h : Realizes attempts events calls)
    (hEvents : ∀ event ∈ events, ∃ sql outcome, event = .statement sql outcome ∧ P sql) :
    ∀ call ∈ calls, ∃ sql answer, call = .execute sql answer ∧ P sql := by
  induction h with
  | nil => nofun
  | @statement sql answers outcome events calls hResolves _ ih =>
    obtain ⟨_, _, hEvent, hSql⟩ := hEvents _ List.mem_cons_self
    cases hEvent
    intro call hCall
    obtain hFirst | hLater := List.mem_append.mp hCall
    · obtain ⟨answer, -, rfl⟩ := List.mem_map.mp hFirst
      exact ⟨sql, answer, rfl, hSql⟩
    · exact ih (fun event hEvent => hEvents event (List.mem_cons_of_mem _ hEvent)) call hLater
  | request | clock =>
    obtain ⟨_, _, hEvent, -⟩ := hEvents _ List.mem_cons_self
    cases hEvent

theorem Realizes.statement_of_execute {attempts : Nat} {events : List Event} {calls : List Call}
    (h : Realizes attempts events calls) {sql : String} {answer : Except UpdateError Reply}
    (hSent : .execute sql answer ∈ calls) : ∃ outcome, .statement sql outcome ∈ events := by
  induction h with
  | nil => cases hSent
  | @statement other answers outcome _ _ _ _ ih =>
    obtain hFirst | hLater := List.mem_append.mp hSent
    · obtain ⟨_, -, hSame⟩ := List.mem_map.mp hFirst
      cases hSame
      exact ⟨outcome, by simp⟩
    · exact (ih hLater).imp fun _ => List.mem_cons_of_mem _
  | request _ ih | clock _ ih =>
    obtain _ | ⟨_, hLater⟩ := hSent
    exact (ih hLater).imp fun _ => List.mem_cons_of_mem _

namespace Backend

variable (backend : Backend σ)

/-- The world goes on with calls that amount to these events. -/
def Traces (world : σ) (events : List Event) (after : σ) : Prop :=
  ∃ calls, Path backend.services world calls after ∧ Realizes backend.attempts events calls

variable {backend}

theorem Traces.nil (world : σ) : backend.Traces world [] world := ⟨[], .nil world, .nil⟩

theorem Traces.nil_eq {world after : σ} (h : backend.Traces world [] after) : after = world := by
  obtain ⟨calls, hPath, hNil⟩ := h
  cases hNil
  cases hPath
  rfl

theorem Traces.answers {sql : String} {outcome : Except UpdateError (List String)} {world after : σ}
    (h : backend.Traces world [.statement sql outcome] after) :
    ∃ answers, Path backend.services world (answers.map (.execute sql)) after ∧
      Resolves backend.attempts sql backend.attempts answers outcome := by
  obtain ⟨calls, hPath, hRealizes⟩ := h
  obtain ⟨answers, rfl, hResolves⟩ := hRealizes.answers
  exact ⟨answers, hPath, hResolves⟩

theorem Traces.append {world middle after : σ} {before later : List Event}
    (h : backend.Traces world before middle) (hLater : backend.Traces middle later after) :
    backend.Traces world (before ++ later) after := by
  obtain ⟨first, hPath, hRealizes⟩ := h
  obtain ⟨second, hPathLater, hRealizesLater⟩ := hLater
  exact ⟨first ++ second, hPath.append hPathLater, hRealizes.append hRealizesLater⟩

theorem Traces.split {world after : σ} {before later : List Event}
    (h : backend.Traces world (before ++ later) after) :
    ∃ middle, backend.Traces world before middle ∧ backend.Traces middle later after := by
  obtain ⟨calls, hPath, hRealizes⟩ := h
  obtain ⟨first, second, rfl, hBefore, hLater⟩ := hRealizes.split
  obtain ⟨middle, hFirst, hSecond⟩ := hPath.split
  exact ⟨middle, ⟨first, hFirst, hBefore⟩, second, hSecond, hLater⟩

theorem Traces.uncons {event : Event} {events : List Event} {world after : σ}
    (h : backend.Traces world (event :: events) after) :
    ∃ middle, backend.Traces world [event] middle ∧ backend.Traces middle events after := by
  rw [← List.singleton_append] at h
  exact h.split

variable (backend)

theorem attempt_resolves (sql : String) (left : Nat) (session : Session σ) :
    ∃ answers,
      Path backend.services session.world (answers.map (.execute sql))
        (backend.attempt sql left session).2.world ∧
      Resolves backend.attempts sql left answers (backend.attempt sql left session).1 := by
  induction left generalizing session with
  | zero => exact ⟨[], .nil _, .exhausted⟩
  | succ left ih =>
    unfold attempt
    rcases hAnswer : backend.services.execute sql session.world with ⟨e | reply, world⟩
    · exact ⟨[.error e], .execute hAnswer (.nil _), .unreachable e⟩
    · cases hLost : reply.connectionLost with
      | true =>
        obtain ⟨answers, hRest, hResolves⟩ := ih { session with world, results := reply.lines }
        refine ⟨.ok reply :: answers, .execute hAnswer ?_, ?_⟩
        · simpa [hLost] using hRest
        · simpa [hLost] using hResolves.lost hLost
      | false =>
        cases hSucceeded : reply.succeeded with
        | true =>
          refine ⟨[.ok reply], .execute hAnswer ?_, ?_⟩
          · simpa [hLost, hSucceeded] using Path.nil _
          · simpa [hLost, hSucceeded] using Resolves.succeeded hSucceeded
        | false =>
          refine ⟨[.ok reply], .execute hAnswer ?_, ?_⟩
          · simpa [hLost, hSucceeded] using Path.nil _
          · simpa [hLost, hSucceeded] using Resolves.rejected hLost hSucceeded

theorem query_traces {sql : String} {session after : Session σ}
    {outcome : Except UpdateError (List String)}
    (h : backend.query sql session = (outcome, after)) :
    backend.Traces session.world [.statement sql outcome] after.world := by
  obtain ⟨answers, hPath, hResolves⟩ := backend.attempt_resolves sql backend.attempts session
  change backend.attempt sql backend.attempts session = _ at h
  rw [h] at hPath hResolves
  have hRealizes := Realizes.statement hResolves .nil
  rw [List.append_nil] at hRealizes
  exact ⟨answers.map (.execute sql), hPath, hRealizes⟩

variable {backend}

theorem attempt_of_resolves {sql : String} {left : Nat} {answers : List (Except UpdateError Reply)}
    {outcome : Except UpdateError (List String)} {session : Session σ} {after : σ}
    (hPath : Path backend.services session.world (answers.map (.execute sql)) after)
    (hResolves : Resolves backend.attempts sql left answers outcome) :
    (backend.attempt sql left session).1 = outcome := by
  induction hResolves generalizing session with
  | exhausted => rfl
  | unreachable e =>
    cases hPath with
    | execute hAnswer => simp only [attempt, hAnswer]
  | lost hLost _ ih =>
    cases hPath with
    | execute hAnswer hRest =>
      simp only [attempt, hAnswer, hLost, if_true]
      exact ih hRest
  | @succeeded _ reply hSucceeded =>
    cases hPath with
    | execute hAnswer =>
      have hLost : reply.connectionLost = false := by
        have hExit : reply.exitCode = 0 := by simpa [Reply.succeeded] using hSucceeded
        simp [Reply.connectionLost, hExit]
      simp [attempt, hAnswer, hLost, hSucceeded]
  | rejected hLost hSucceeded =>
    cases hPath with
    | execute hAnswer => simp [attempt, hAnswer, hLost, hSucceeded]

/-- A statement has only one event. -/
theorem query_of_traces {sql : String} {outcome : Except UpdateError (List String)} {after : σ}
    (session : Session σ)
    (h : backend.Traces session.world [.statement sql outcome] after) :
    (backend.query sql session).1 = outcome := by
  obtain ⟨answers, hPath, hResolves⟩ := h.answers
  exact attempt_of_resolves hPath hResolves

end Backend

end ValidityTables
