import ValidityTables.Proofs.Answers
import ValidityTables.Proofs.LostConnections
import ValidityTables.Proofs.Operations

/-! # Retries are transparent

A steady client never loses its connection. If connections are lost before its answers, for each
statement less often than it is tried, then a program over the updater cannot tell: it makes the
same observations. Only the calls differ, and each statement is there once more for every attempt at
it that was lost.
-/

namespace ValidityTables

variable {σ : Type}

def Services.Steady (services : Services σ) : Prop :=
  ∀ {sql world reply after}, services.execute sql world = (.ok reply, after) →
    reply.connectionLost = false

/-- A world with the number of statements that were answered, and of the attempts at the next one
that were lost. -/
structure Lossy (σ : Type) where
  world : σ
  answered : Nat := 0
  lost : Nat := 0

/-- The same services, where statement `n` is answered only after the replies `losses n`. -/
def Services.losing (services : Services σ) (losses : Nat → List Reply) : Services (Lossy σ) where
  execute sql lossy :=
    match (losses lossy.answered)[lossy.lost]? with
    | some reply => (.ok reply, { lossy with lost := lossy.lost + 1 })
    | none =>
      let (answer, world) := services.execute sql lossy.world
      (answer, { world, answered := lossy.answered + 1 })
  probe table lossy := services.probe table lossy.world
  allocate table scope lossy :=
    let (answer, world) := services.allocate table scope lossy.world
    (answer, { lossy with world })
  now lossy :=
    let (date, world) := services.now lossy.world
    (date, { lossy with world })

def Backend.losing (backend : Backend σ) (losses : Nat → List Reply) : Backend (Lossy σ) where
  services := backend.services.losing losses
  maxAttempts := backend.maxAttempts
  mode := backend.mode

def Session.losing (session : Session σ) : Session (Lossy σ) where
  world := { world := session.world }
  results := session.results
  executed := session.executed
  counters := session.counters

def lostCalls (sql : String) (replies : List Reply) : List Call :=
  replies.map fun reply => .execute sql (.ok reply)

/-- The calls with those that were lost, if `n` statements were answered before. -/
def resent (losses : Nat → List Reply) (n : Nat) : List Call → List Call
  | [] => []
  | .execute sql answer :: rest =>
    lostCalls sql (losses n) ++ .execute sql answer :: resent losses (n + 1) rest
  | .allocate table scope answer :: rest => .allocate table scope answer :: resent losses n rest
  | .clock date :: rest => .clock date :: resent losses n rest

theorem resent_append (losses : Nat → List Reply) (n : Nat) (before later : List Call) :
    resent losses n (before ++ later) =
      resent losses n before ++ resent losses (n + before.countP Call.isStatement) later := by
  induction before generalizing n with
  | nil => rfl
  | cons call rest ih =>
    cases call with
    | execute sql answer =>
      have hCount : n + 1 + rest.countP Call.isStatement =
          n + (Call.execute sql answer :: rest).countP Call.isStatement := by
        rw [List.countP_cons_of_pos rfl]
        omega
      rw [List.cons_append, resent, resent, ih, hCount, List.append_assoc, List.cons_append]
    | allocate table scope answer => exact congrArg (Call.allocate table scope answer :: ·) (ih n)
    | clock date => exact congrArg (Call.clock date :: ·) (ih n)

/-- Only statements are sent again. -/
theorem filter_resent (losses : Nat → List Reply) (n : Nat) (calls : List Call) :
    (resent losses n calls).filter (!Call.isStatement ·) = calls.filter (!Call.isStatement ·) := by
  induction calls generalizing n with
  | nil => rfl
  | cons call rest ih =>
    cases call with
    | execute sql answer =>
      have hLost : (lostCalls sql (losses n)).filter (!Call.isStatement ·) = [] := by
        simp only [lostCalls, List.filter_eq_nil_iff, List.mem_map]
        rintro call ⟨reply, _, rfl⟩
        exact Bool.false_ne_true
      rw [resent, List.filter_append, hLost]
      exact ih (n + 1)
    | allocate table scope answer => exact congrArg (Call.allocate table scope answer :: ·) (ih n)
    | clock date => exact congrArg (Call.clock date :: ·) (ih n)

/-- The first session is that of a run whose connections are lost. -/
structure Resends (losses : Nat → List Reply) (session : Session (Recorded (Lossy σ)))
    (other : Session (Recorded σ)) : Prop where
  world : session.world.world =
    { world := other.world.world, answered := other.world.calls.countP Call.isStatement }
  calls : session.world.calls = resent losses 0 other.world.calls
  results : other.results = session.results
  executed : other.executed = session.executed
  counters : other.counters = session.counters

theorem resent_silent (losses : Nat → List Reply) (n : Nat) {call : Call}
    (hCall : call.isStatement = false) : resent losses n [call] = [call] := by
  cases call with
  | execute sql answer => cases hCall
  | allocate table scope answer => rfl
  | clock date => rfl

/-- A call that is no statement is made in both runs alike. -/
theorem Resends.silent {losses : Nat → List Reply} {session : Session (Recorded (Lossy σ))}
    {other : Session (Recorded σ)} (h : Resends losses session other) (call : Call) (after : σ)
    (hCall : call.isStatement = false) :
    Resends losses
      { session with world := session.world.add call { session.world.world with world := after } }
      { other with world := other.world.add call after } where
  world := by simp [Recorded.add, h.world, hCall]
  calls := by simp [Recorded.add, h.calls, resent_append, resent_silent losses _ hCall]
  results := h.results
  executed := h.executed
  counters := h.counters

section Losing

variable {backend : Backend σ} {losses : Nat → List Reply}

theorem losing_execute_lost (backend : Backend σ) (sql : String) {n : Nat} {world : σ}
    {before rest : List Reply} {reply : Reply} (hSplit : losses n = before ++ reply :: rest)
    {recorded : Recorded (Lossy σ)}
    (hWorld : recorded.world = { world, answered := n, lost := before.length }) :
    (backend.losing losses).recorded.services.execute sql recorded =
      (.ok reply, recorded.add (.execute sql (.ok reply))
        { world, answered := n, lost := before.length + 1 }) := by
  have hReply : (losses n)[before.length]? = some reply := by simp [hSplit]
  simp only [Backend.recorded, Services.recorded, Backend.losing, Services.losing, hWorld, hReply]

theorem losing_execute_answered {sql : String} {n : Nat} {world after : σ}
    {answer : Except UpdateError Reply}
    (hAnswer : backend.services.execute sql world = (answer, after))
    {recorded : Recorded (Lossy σ)}
    (hWorld : recorded.world = { world, answered := n, lost := (losses n).length }) :
    (backend.losing losses).recorded.services.execute sql recorded =
      (answer, recorded.add (.execute sql answer) { world := after, answered := n + 1 }) := by
  have hNone : (losses n)[(losses n).length]? = none := by simp
  simp only [Backend.recorded, Services.recorded, Backend.losing, Services.losing, hWorld, hNone,
    hAnswer]

/-- As long as attempts are left, the replies that are lost leave nothing but their calls. -/
theorem attempt_losing (hLost : ∀ n, ∀ reply ∈ losses n, reply.connectionLost = true)
    (backend : Backend σ) (sql : String) (left : Nat) {n : Nat} {world : σ}
    {before remaining : List Reply} (hSplit : losses n = before ++ remaining)
    {session : Session (Recorded (Lossy σ))}
    (hWorld : session.world.world = { world, answered := n, lost := before.length }) :
    ∃ kept : Session (Recorded (Lossy σ)),
      (backend.losing losses).recorded.attempt sql (left + remaining.length) session =
        (backend.losing losses).recorded.attempt sql left kept ∧
      kept.world.world = { world, answered := n, lost := (losses n).length } ∧
      kept.world.calls = session.world.calls ++ lostCalls sql remaining ∧
      kept.executed = session.executed ∧ kept.counters = session.counters := by
  induction remaining generalizing session before with
  | nil => exact ⟨session, rfl, by simp [hWorld, hSplit], by simp [lostCalls], rfl, rfl⟩
  | cons reply rest ih =>
    have hReply : reply.connectionLost = true := hLost n reply (by simp [hSplit])
    have hExecute := losing_execute_lost backend sql hSplit hWorld
    let next : Session (Recorded (Lossy σ)) := { session with
      world := session.world.add (.execute sql (.ok reply))
        { world, answered := n, lost := before.length + 1 }
      results := reply.lines }
    have hNext : next.world.world =
        { world, answered := n, lost := (before ++ [reply]).length } := by
      simp [next, Recorded.add]
    obtain ⟨kept, hRest, hKept, hCalls, hExecuted, hCounters⟩ := ih (by simp [hSplit]) hNext
    refine ⟨kept, ?_, hKept, ?_, hExecuted, hCounters⟩
    · rw [List.length_cons, ← Nat.add_assoc, Backend.attempt]
      simp only [hExecute, hReply, if_true]
      exact hRest
    · rw [hCalls]
      simp [next, Recorded.add, lostCalls]

theorem query_resends (hSteady : backend.services.Steady)
    (hLost : ∀ n, ∀ reply ∈ losses n, reply.connectionLost = true)
    (hBounded : ∀ n, (losses n).length < backend.attempts) (sql : String) :
    Corresponds (Resends losses) ((backend.losing losses).recorded.query sql)
      (backend.recorded.query sql) := by
  intro session other h
  rcases hAnswer : backend.services.execute sql other.world.world with ⟨answer, after⟩
  have hAnswered : ∀ reply, answer = .ok reply → reply.connectionLost = false := by
    rintro reply rfl
    exact hSteady hAnswer
  -- After the attempts that are lost there is one left for the answer.
  let n := other.world.calls.countP Call.isStatement
  obtain ⟨left, hLeft⟩ : ∃ left, backend.attempts = left + 1 + (losses n).length := by
    have hRoom := hBounded n
    exact ⟨backend.attempts - (losses n).length - 1, by omega⟩
  obtain ⟨kept, hRun, hKept, hCalls, hExecuted, hCounters⟩ :=
    attempt_losing hLost backend sql (left + 1) (List.nil_append (losses n)).symm h.world
  have hPlain : backend.recorded.query sql other =
      other.answered sql (other.world.add (.execute sql answer) after) answer :=
    Backend.recorded_query_answered hAnswer hAnswered
  have hLossy : (backend.losing losses).recorded.query sql session =
      kept.answered sql
        (kept.world.add (.execute sql answer) { world := after, answered := n + 1 }) answer := by
    have hAttempts : (backend.losing losses).recorded.attempts = left + 1 + (losses n).length :=
      hLeft
    rw [Backend.query, hAttempts, hRun]
    exact Backend.attempt_answered (losing_execute_answered hAnswer hKept) hAnswered left
  obtain ⟨hResult, hResults, hCount, hCounted, hFirst, hSecond⟩ :=
    Session.answered_alike sql
      (kept.world.add (.execute sql answer) { world := after, answered := n + 1 })
      (other.world.add (.execute sql answer) after) answer (h.executed.trans hExecuted.symm)
      (h.counters.trans hCounters.symm)
  rw [hPlain, hLossy]
  refine ⟨hResult, ?_, ?_, hResults, hCount, hCounted⟩
  · rw [hFirst, hSecond]
    simp [Recorded.add, n, Call.isStatement]
  · rw [hFirst, hSecond]
    simp [Recorded.add, resent_append, resent, hCalls, h.calls, n]

theorem losing_matches (hSteady : backend.services.Steady)
    (hLost : ∀ n, ∀ reply ∈ losses n, reply.connectionLost = true)
    (hBounded : ∀ n, (losses n).length < backend.attempts) :
    Backend.Matches (Resends losses) (backend.losing losses).recorded backend.recorded where
  mode := rfl
  probe table h := by
    rw [Backend.recorded_probe, Backend.recorded_probe, h.world]
    rfl
  query := query_resends hSteady hLost hBounded
  allocate table scope session other h := by
    rcases hAnswer : backend.services.allocate table scope other.world.world with ⟨answer, after⟩
    have hLossy : (backend.losing losses).services.allocate table scope session.world.world =
        (answer, { session.world.world with world := after }) := by
      simp only [Backend.losing, Services.losing, h.world, hAnswer]
    rw [Backend.recorded_allocate hAnswer, Backend.recorded_allocate hLossy]
    exact ⟨rfl, h.silent _ after rfl⟩
  now session other h := by
    rcases hDate : backend.services.now other.world.world with ⟨date, after⟩
    have hLossy : (backend.losing losses).services.now session.world.world =
        (date, { session.world.world with world := after }) := by
      simp only [Backend.losing, Services.losing, h.world, hDate]
    rw [Backend.recorded_now hDate, Backend.recorded_now hLossy]
    exact ⟨rfl, h.silent _ after rfl⟩
  counters h := h.counters
  recounted counters h := ⟨h.world, h.calls, h.results, h.executed, rfl⟩

end Losing

namespace Updater

/-- A program makes the same observations whatever is lost, and ends with the same blocks. Its calls
are those without a loss, with each statement there once more for every attempt that was lost. -/
theorem performAll_resent (config : Config) (backend : Backend σ) (losses : Nat → List Reply)
    (hSteady : backend.services.Steady)
    (hLost : ∀ n, ∀ reply ∈ losses n, reply.connectionLost = true)
    (hBounded : ∀ n, (losses n).length < backend.attempts) (blocks : List Block)
    (operations : List Operation) (session : Session σ) :
    let lossy : Updater (Lossy σ) := ⟨config, backend.losing losses⟩
    let steady : Updater σ := ⟨config, backend⟩
    let resentCalls := lossy.calls blocks operations session.losing
    let calls := steady.calls blocks operations session
    (lossy.performAll blocks operations session.losing).1 =
        (steady.performAll blocks operations session).1 ∧
      resentCalls = resent losses 0 calls ∧
      resentCalls.filter (!Call.isStatement ·) = calls.filter (!Call.isStatement ·) := by
  intro lossy steady resentCalls calls
  have hStart : Resends losses (session.losing.recording []) (session.recording []) :=
    ⟨rfl, rfl, rfl, rfl, rfl⟩
  obtain ⟨hResult, hAfter⟩ := performAll_corresponds (losing_matches hSteady hLost hBounded)
    (fun h => ⟨h.results, h.executed⟩) config blocks operations _ _ hStart
  have hResent : resentCalls = resent losses 0 calls := hAfter.calls
  refine ⟨?_, hResent, hResent ▸ filter_resent losses 0 calls⟩
  have hLossy := lossy.performAll_mirrors blocks operations (session.losing.recording [])
  have hPlain := steady.performAll_mirrors blocks operations (session.recording [])
  exact (congrArg Prod.fst hLossy).trans (hResult.symm.trans (congrArg Prod.fst hPlain).symm)

/-- The connection is lost twice before the second statement is answered. -/
def lostTwice (n : Nat) : List Reply :=
  if n = 1 then [Server.lostReply, Server.lostReply] else []

/-- A block is begun, takes a row and is applied. -/
theorem performAll_resent_twice :
    let backend : Backend Script := ⟨Script.services.echoing Script.print, 3, .durable⟩
    let operations : List Operation :=
      [.begin { scope := .locally } UpdateFile.commentedHeader, .addRow 0 "1,2",
        .applyBlock 0 "2020-01-01 00:00:00"]
    let session : Session Script := { world := Script.steady }
    let lossy : Updater (Lossy Script) := ⟨{}, backend.losing lostTwice⟩
    (lossy.performAll [] operations session.losing).1 =
        (performAll ⟨{}, backend⟩ [] operations session).1 ∧
      lossy.calls [] operations session.losing =
        resent lostTwice 0 (calls ⟨{}, backend⟩ [] operations session) := by
  intro backend operations session lossy
  have hLost : ∀ n, ∀ reply ∈ lostTwice n, reply.connectionLost = true := by
    intro n reply hReply
    by_cases hSecond : n = 1
    · simp only [lostTwice, hSecond, if_true, List.mem_cons, List.not_mem_nil, or_false, or_self]
        at hReply
      subst hReply
      decide +kernel
    · simp [lostTwice, hSecond] at hReply
  have hBounded : ∀ n, (lostTwice n).length < backend.attempts := by
    intro n
    by_cases hSecond : n = 1 <;> simp [lostTwice, hSecond, backend, Backend.attempts]
  obtain ⟨hAlike, hResent, -⟩ := performAll_resent {} backend lostTwice
    (Script.services.echoing_kept Script.print) hLost hBounded [] operations session
  exact ⟨hAlike, hResent⟩

end Updater

end ValidityTables
