import ValidityTables.Proofs.Recording
import ValidityTables.Proofs.Answers
import ValidityTables.Services.Script

/-! # Attempts at a statement

A statement is sent again as long as the connection is lost, up to a number of attempts. The first
answer that is no lost connection decides the statement, and the session after it is the one that
this answer alone would leave. If there is no such answer, only the output of the last attempt
stays.
-/

namespace ValidityTables

variable {σ α : Type}

/-- The answer of a client that lost its connection. -/
def Lost (answer : Except UpdateError Reply) : Prop :=
  ∃ reply, answer = .ok reply ∧ reply.exitCode = 1 ∧
    ∃ line ∈ reply.lines, ∃ marker ∈ Reply.lostMarkers, marker.toList <:+: line.toList

theorem Reply.occursIn_iff (part whole : List Char) :
    occursIn part whole = true ↔ part <:+: whole := by
  induction whole with
  | nil => simp [occursIn]
  | cons c rest ih => simp [occursIn, ih, List.infix_cons_iff]

theorem lost_iff {reply : Reply} : Lost (.ok reply) ↔ reply.connectionLost = true := by
  simp [Lost, Reply.connectionLost, Reply.occursIn_iff]

namespace Services

variable (services : Services σ) (sql : String)

/-- The world after a statement was sent a number of times. -/
def sent (world : σ) : Nat → σ
  | 0 => world
  | n + 1 => sent (services.execute sql world).2 n

/-- The answer to the attempt at an index, counted from zero. -/
def answer (world : σ) (i : Nat) : Except UpdateError Reply :=
  (services.execute sql (services.sent sql world i)).1

/-- The calls of the first attempts. -/
def attemptCalls (world : σ) (n : Nat) : List Call :=
  (List.range n).map fun i => .execute sql (services.answer sql world i)

theorem recorded_sent (recorded : Recorded σ) (n : Nat) :
    services.recorded.sent sql recorded n =
      { world := services.sent sql recorded.world n,
        calls := recorded.calls ++ services.attemptCalls sql recorded.world n } := by
  induction n generalizing recorded with
  | zero => simp [sent, attemptCalls]
  | succ n ih =>
    have hCalls : services.attemptCalls sql recorded.world (n + 1) =
        .execute sql (services.execute sql recorded.world).1 ::
          services.attemptCalls sql (services.execute sql recorded.world).2 n := by
      simp only [attemptCalls, List.range_succ_eq_map, List.map_cons, List.map_map]
      rfl
    rw [sent, ih, hCalls]
    simp only [Services.recorded, Recorded.add, sent, List.append_assoc, List.singleton_append]

theorem recorded_answer (recorded : Recorded σ) :
    services.recorded.answer sql recorded = services.answer sql recorded.world := by
  funext i
  rw [answer, recorded_sent]
  rfl

end Services

namespace Backend

section Decided

variable {backend : Backend σ} {sql : String} {session : Session σ}

theorem attempt_lost (hLost : Lost (backend.services.answer sql session.world 0)) (left : Nat) :
    ∃ reply, backend.services.answer sql session.world 0 = .ok reply ∧
      backend.attempt sql (left + 1) session = backend.attempt sql left
        { session with
          world := backend.services.sent sql session.world 1, results := reply.lines } := by
  obtain ⟨reply, hReply, -⟩ := id hLost
  rw [hReply, lost_iff] at hLost
  have hAnswer : backend.services.execute sql session.world =
      (.ok reply, backend.services.sent sql session.world 1) := Prod.ext hReply rfl
  refine ⟨reply, hReply, ?_⟩
  rw [attempt]
  simp only [hAnswer, hLost, if_true]

/-- The attempts before the answer that decides leave nothing in the session. -/
theorem attempt_decided {j : Nat} (hKept : ¬ Lost (backend.services.answer sql session.world j))
    (hLost : ∀ i < j, Lost (backend.services.answer sql session.world i)) (left : Nat) :
    backend.attempt sql (left + (j + 1)) session =
      session.answered sql (backend.services.sent sql session.world (j + 1))
        (backend.services.answer sql session.world j) := by
  induction j generalizing session with
  | zero =>
    refine attempt_answered rfl (fun reply hReply => ?_) left
    have hAnswer : backend.services.answer sql session.world 0 = .ok reply := hReply
    rw [hAnswer, lost_iff] at hKept
    exact Bool.eq_false_iff.mpr hKept
  | succ j ih =>
    -- The answer at `j + 1` is the one at `j` in the world that the first attempt has left.
    obtain ⟨reply, -, hFirst⟩ := attempt_lost (hLost 0 (Nat.succ_pos j)) (left + (j + 1))
    have hRest := @ih { session with
        world := backend.services.sent sql session.world 1, results := reply.lines } hKept
      fun i hi => hLost (i + 1) (Nat.succ_lt_succ hi)
    rw [← Nat.add_assoc, hFirst, hRest]
    rfl

theorem attempt_exhausted {n : Nat}
    (hLost : ∀ i ≤ n, Lost (backend.services.answer sql session.world i)) :
    ∃ reply, backend.services.answer sql session.world n = .ok reply ∧
      backend.attempt sql (n + 1) session =
        (.error (.transientExhausted backend.attempts sql), { session with
          world := backend.services.sent sql session.world (n + 1), results := reply.lines }) := by
  induction n generalizing session with
  | zero => exact attempt_lost (hLost 0 (Nat.le_refl 0)) 0
  | succ n ih =>
    obtain ⟨first, -, hFirst⟩ := attempt_lost (hLost 0 (Nat.zero_le (n + 1))) (n + 1)
    obtain ⟨reply, hReply, hRest⟩ := @ih { session with
        world := backend.services.sent sql session.world 1, results := first.lines }
      fun i hi => hLost (i + 1) (Nat.succ_le_succ hi)
    exact ⟨reply, hReply, hFirst.trans hRest⟩

theorem query_decided {j : Nat} (hBound : j < backend.attempts)
    (hKept : ¬ Lost (backend.services.answer sql session.world j))
    (hLost : ∀ i < j, Lost (backend.services.answer sql session.world i)) :
    backend.query sql session =
      session.answered sql (backend.services.sent sql session.world (j + 1))
        (backend.services.answer sql session.world j) := by
  obtain ⟨left, hAttempts⟩ := Nat.exists_eq_add_of_le' (Nat.succ_le_of_lt hBound)
  rw [query, hAttempts]
  exact attempt_decided hKept hLost left

theorem query_exhausted
    (hLost : ∀ i < backend.attempts, Lost (backend.services.answer sql session.world i)) :
    ∃ reply, backend.services.answer sql session.world (backend.attempts - 1) = .ok reply ∧
      backend.query sql session =
        (.error (.transientExhausted backend.attempts sql), { session with
          world := backend.services.sent sql session.world backend.attempts
          results := reply.lines }) := by
  obtain ⟨n, hAttempts⟩ : ∃ n, backend.attempts = n + 1 :=
    Nat.exists_eq_add_of_le' (Nat.le_max_right backend.maxAttempts 1)
  obtain ⟨reply, hReply, hRun⟩ :=
    attempt_exhausted fun i hi => hLost i (hAttempts ▸ Nat.lt_succ_of_le hi)
  refine ⟨reply, by rw [hAttempts]; exact hReply, ?_⟩
  rw [← hAttempts] at hRun
  exact hRun

/-- The calls of a step that runs over a backend. -/
def callsOf (backend : Backend σ) (session : Session σ)
    (step : Backend (Recorded σ) → Action (Recorded σ) α) : List Call :=
  (step backend.recorded (session.recording [])).2.world.calls

theorem callsOf_query_decided {j : Nat} (hBound : j < backend.attempts)
    (hKept : ¬ Lost (backend.services.answer sql session.world j))
    (hLost : ∀ i < j, Lost (backend.services.answer sql session.world i)) :
    backend.callsOf session (·.query sql) =
      backend.services.attemptCalls sql session.world (j + 1) := by
  have hAnswer := backend.services.recorded_answer sql (session.recording []).world
  have hQuery : backend.recorded.query sql (session.recording []) = _ :=
    query_decided hBound (fun h => hKept (hAnswer ▸ h)) (fun i hi => hAnswer ▸ hLost i hi)
  have hSent := backend.services.recorded_sent sql (session.recording []).world (j + 1)
  rw [callsOf, hQuery, Session.answered_world]
  exact congrArg Recorded.calls hSent

theorem callsOf_query_exhausted
    (hLost : ∀ i < backend.attempts, Lost (backend.services.answer sql session.world i)) :
    backend.callsOf session (·.query sql) =
      backend.services.attemptCalls sql session.world backend.attempts := by
  have hAnswer := backend.services.recorded_answer sql (session.recording []).world
  obtain ⟨reply, -, hQuery⟩ : ∃ reply, _ ∧
      backend.recorded.query sql (session.recording []) = _ :=
    query_exhausted fun i hi => hAnswer ▸ hLost i hi
  have hSent := backend.services.recorded_sent sql (session.recording []).world backend.attempts
  rw [callsOf, hQuery]
  exact congrArg Recorded.calls hSent

theorem tableExists_unprobed {table : String}
    (hProbe : backend.services.probe table session.world = none) :
    backend.tableExists table session = (.ok true, session) := by
  rw [tableExists]
  simp only [hProbe]

/-- A table exists if its probe succeeds, and does not if the probe fails. -/
theorem tableExists_probed {table : String}
    (hProbe : backend.services.probe table session.world = some sql) :
    backend.tableExists table session =
      ((match (backend.query sql session).1 with
        | .ok _ => .ok true
        | .error (.execution _ _ _) => .ok false
        | .error e => .error e),
        (backend.query sql session).2) := by
  rw [tableExists]
  simp only [hProbe]
  rcases backend.query sql session with ⟨(e | lines), after⟩
  · cases e <;> rfl
  · rfl

end Decided

/-- A statement is sent until an answer is no lost connection, and that answer decides it. If all
attempts are lost, the last one leaves its output. A table exists if its probe succeeds. -/
theorem query_retried (backend : Backend σ) (session : Session σ) :
    let m := max backend.maxAttempts 1
    (∀ sql,
      let answer := backend.services.answer sql session.world
      let calls := backend.callsOf session (·.query sql)
      let run := backend.query sql session
      (∀ j < m, ¬ Lost (answer j) → (∀ i < j, Lost (answer i)) →
        calls = (List.range (j + 1)).map (fun i => .execute sql (answer i)) ∧
        match answer j with
        | .error e =>
          run.1 = .error e ∧ run.2.results = [] ∧ run.2.executed = session.executed
        | .ok reply =>
          run.2.results = reply.lines ∧
          if reply.exitCode = 0 then
            run.1 = .ok reply.lines ∧ run.2.executed = session.executed + 1
          else
            run.1 = .error (.execution sql reply.exitCode reply.lines) ∧
              run.2.executed = session.executed) ∧
      ((∀ i < m, Lost (answer i)) →
        calls = (List.range m).map (fun i => .execute sql (answer i)) ∧
        run.1 = .error (.transientExhausted m sql) ∧ run.2.executed = session.executed ∧
        ∃ reply, answer (m - 1) = .ok reply ∧ run.2.results = reply.lines)) ∧
    ∀ table,
      let calls := backend.callsOf session (·.tableExists table)
      let run := backend.tableExists table session
      match backend.services.probe table session.world with
      | none => calls = [] ∧ run = (.ok true, session)
      | some sql =>
        let probed := backend.query sql session
        calls = backend.callsOf session (·.query sql) ∧ run.2 = probed.2 ∧
        run.1 = match probed.1 with
          | .ok _ => .ok true
          | .error (.execution _ _ _) => .ok false
          | .error e => .error e := by
  intro m
  constructor
  · intro sql answer calls run
    refine ⟨fun j hBound hKept hLost => ?_, fun hLost => ?_⟩
    · refine ⟨callsOf_query_decided hBound hKept hLost, ?_⟩
      have hRun : run = session.answered sql _ (answer j) := query_decided hBound hKept hLost
      rw [hRun]
      cases answer j with
      | error e => exact ⟨rfl, rfl, rfl⟩
      | ok reply =>
        simp only [Session.answered, Reply.succeeded, beq_iff_eq]
        split <;> exact ⟨rfl, rfl, rfl⟩
    · obtain ⟨reply, hReply, hRun⟩ := query_exhausted hLost
      have hEnded : run = _ := hRun
      rw [hEnded]
      exact ⟨callsOf_query_exhausted hLost, rfl, rfl, reply, hReply, rfl⟩
  · intro table calls run
    cases hProbe : backend.services.probe table session.world with
    | none =>
      have hRecorded : backend.recorded.tableExists table (session.recording []) = _ :=
        tableExists_unprobed hProbe
      exact ⟨congrArg (·.2.world.calls) hRecorded, tableExists_unprobed hProbe⟩
    | some sql =>
      have hRecorded : backend.recorded.tableExists table (session.recording []) = _ :=
        tableExists_probed hProbe
      have hRun : run = _ := tableExists_probed hProbe
      rw [hRun]
      exact ⟨congrArg (·.2.world.calls) hRecorded, rfl, rfl⟩

/-- A connection that was lost once, before an answer with one line. -/
theorem query_retried_once :
    let lost : Reply := { exitCode := 1, lines := ["ERROR 2006 (HY000): server has gone away"] }
    let backend : Backend Script := ⟨Script.services, 3, .durable⟩
    let session : Session Script :=
      { world := { client := .answers [.ok lost, .ok { lines := ["42"] }] true, date := "" } }
    let answer := backend.services.answer "select 42" session.world
    (∀ i < 1, Lost (answer i)) ∧ ¬ Lost (answer 1) ∧
      backend.callsOf session (·.query "select 42") =
        [.execute "select 42" (.ok lost), .execute "select 42" (.ok { lines := ["42"] })] ∧
      (backend.query "select 42" session).2.executed = 1 := by
  intro lost backend session answer
  have hLost : ∀ i < 1, Lost (answer i) := by
    intro i hi
    obtain rfl : i = 0 := Nat.lt_one_iff.mp hi
    exact lost_iff.mpr (by decide +kernel)
  have hKept : ¬ Lost (answer 1) := fun h => by
    have hSecond : Lost (.ok { lines := ["42"] }) := h
    rw [lost_iff] at hSecond
    revert hSecond
    decide +kernel
  obtain ⟨hCalls, -, hRun⟩ :=
    ((query_retried backend session).1 "select 42").1 1 (by decide) hKept hLost
  exact ⟨hLost, hKept, hCalls, hRun.2⟩

end Backend

end ValidityTables
