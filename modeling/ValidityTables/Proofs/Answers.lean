import ValidityTables.Services.Echo
import ValidityTables.Proofs.Calls

/-! # What an answer makes of a session

A statement whose answer is not that of a lost connection is sent once, and the session after it is
known from the answer. Where statements are only printed, every one of them succeeds and every table
is taken to exist.
-/

namespace ValidityTables

variable {σ τ : Type}

@[simp] def Call.statement? : Call → Option String
  | .execute sql _ => some sql
  | .allocate _ _ _ | .clock _ => none

def Call.isStatement (call : Call) : Bool := call.statement?.isSome

/-- The statements that were sent, in order. -/
def statements (calls : List Call) : List String := calls.filterMap Call.statement?

theorem mem_statements {calls : List Call} {sql : String} :
    sql ∈ statements calls ↔ ∃ answer, Call.execute sql answer ∈ calls := by
  rw [statements, List.mem_filterMap]
  constructor
  · rintro ⟨call, hMem, hCall⟩
    cases call <;> cases hCall
    exact ⟨_, hMem⟩
  · rintro ⟨answer, hMem⟩
    exact ⟨_, hMem, rfl⟩

/-- What an answer comes to that is not lost, and what it makes of a session. -/
def Session.answered (session : Session σ) (sql : String) (world : σ) :
    Except UpdateError Reply → Except UpdateError (List String) × Session σ
  | .error e => (.error e, { session with world, results := [] })
  | .ok reply =>
    if reply.succeeded then
      (.ok reply.lines,
        { session with world, results := reply.lines, executed := session.executed + 1 })
    else
      (.error (.execution sql reply.exitCode reply.lines),
        { session with world, results := reply.lines })

theorem Session.answered_world (session : Session σ) (sql : String) (world : σ)
    (answer : Except UpdateError Reply) : (session.answered sql world answer).2.world = world := by
  cases answer with
  | error e => rfl
  | ok reply =>
    rw [Session.answered]
    split <;> rfl

/-- The sessions of two runs after the same answer differ in their worlds only. -/
theorem Session.answered_alike {session : Session τ} {other : Session σ} (sql : String)
    (world : τ) (place : σ) (answer : Except UpdateError Reply)
    (hExecuted : other.executed = session.executed)
    (hCounters : other.counters = session.counters) :
    let ended := session.answered sql world answer
    let last := other.answered sql place answer
    last.1 = ended.1 ∧ last.2.results = ended.2.results ∧ last.2.executed = ended.2.executed ∧
      last.2.counters = ended.2.counters ∧ ended.2.world = world ∧ last.2.world = place := by
  cases answer with
  | error e => exact ⟨rfl, rfl, hExecuted, hCounters, rfl, rfl⟩
  | ok reply =>
    simp only [Session.answered]
    split
    · exact ⟨rfl, rfl, congrArg (· + 1) hExecuted, hCounters, rfl, rfl⟩
    · exact ⟨rfl, rfl, hExecuted, hCounters, rfl, rfl⟩

theorem Reply.succeeded_kept {reply : Reply} (h : reply.succeeded = true) :
    reply.connectionLost = false := by
  have hExit : reply.exitCode = 0 := by simpa [succeeded] using h
  simp [connectionLost, hExit]

namespace Backend

variable {backend : Backend σ} {sql : String} {answer : Except UpdateError Reply}

theorem attempt_answered {session : Session σ} {world : σ}
    (hAnswer : backend.services.execute sql session.world = (answer, world))
    (hKept : ∀ reply, answer = .ok reply → reply.connectionLost = false) (left : Nat) :
    backend.attempt sql (left + 1) session = session.answered sql world answer := by
  unfold attempt
  simp only [hAnswer]
  cases answer with
  | error e => rfl
  | ok reply =>
    simp only [hKept reply rfl, Bool.false_eq_true, if_false, Session.answered]

theorem query_answered {session : Session σ} {world : σ}
    (hAnswer : backend.services.execute sql session.world = (answer, world))
    (hKept : ∀ reply, answer = .ok reply → reply.connectionLost = false) :
    backend.query sql session = session.answered sql world answer := by
  obtain ⟨left, hAttempts⟩ : ∃ left, backend.attempts = left + 1 :=
    Nat.exists_eq_add_of_le' (Nat.le_max_right backend.maxAttempts 1)
  rw [query, hAttempts]
  exact attempt_answered hAnswer hKept left

theorem recorded_query_answered {session : Session (Recorded σ)} {world : σ}
    (hAnswer : backend.services.execute sql session.world.world = (answer, world))
    (hKept : ∀ reply, answer = .ok reply → reply.connectionLost = false) :
    backend.recorded.query sql session =
      session.answered sql (session.world.add (.execute sql answer) world) answer := by
  refine query_answered ?_ hKept
  simp only [recorded, Services.recorded, hAnswer]

theorem recorded_allocate {session : Session (Recorded σ)} {world : σ} {table : String}
    {scope : Scope} {number : Except UpdateError UInt32}
    (hNumber : backend.services.allocate table scope session.world.world = (number, world)) :
    backend.recorded.allocate table scope session = (number,
      { session with world := session.world.add (.allocate table scope number) world }) := by
  simp only [allocate, recorded, Services.recorded, hNumber]

theorem recorded_now {session : Session (Recorded σ)} {world : σ} {date : String}
    (hDate : backend.services.now session.world.world = (date, world)) :
    backend.recorded.now session = (date,
      { session with world := session.world.add (.clock date) world }) := by
  simp only [now, recorded, Services.recorded, hDate]

end Backend

/-- The same services, where statements are printed instead of being run. -/
def Services.echoing (services : Services σ) (print : String → σ → σ) : Services σ :=
  { services with execute := Echo.execute print, probe := Echo.probe }

/-- The same run with printed statements and temporary tables. -/
def Backend.rehearsing (backend : Backend σ) (print : String → σ → σ) : Backend σ where
  services := backend.services.echoing print
  maxAttempts := backend.maxAttempts
  mode := .ephemeral

theorem Services.echoing_kept (services : Services σ) (print : String → σ → σ) {sql : String}
    {world after : σ} {reply : Reply}
    (h : (services.echoing print).execute sql world = (.ok reply, after)) :
    reply.connectionLost = false := by
  cases h
  rfl

end ValidityTables
