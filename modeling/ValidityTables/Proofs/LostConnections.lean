import ValidityTables.Proofs.StoredRows

/-! # Statements that are sent again

A client that lost its connection cannot tell whether the server has run the statement, which is
then sent again. So a statement that succeeds in the end has been run once, and once more for each
attempt that was lost after the server had run it. This holds of all statements that store a block,
and nothing else stores its rows.
-/

namespace ValidityTables

variable {σ : Type}

/-- Services before a server that notes the statements it has run. It runs an attempt at most once,
and certainly if the attempt is answered with success. -/
structure Executes (services : Services σ) (executed : σ → List String) : Prop where
  attempt : ∀ {sql world answer after}, services.execute sql world = (answer, after) →
    executed after = executed world ∨ executed after = executed world ++ [sql]
  succeeded : ∀ {sql world reply after}, services.execute sql world = (.ok reply, after) →
    reply.succeeded = true → executed after = executed world ++ [sql]
  allocate : ∀ table scope world,
    executed (services.allocate table scope world).2 = executed world
  now : ∀ world, executed (services.now world).2 = executed world

/-- The server does not run the statement twice in a row, as if the rows that it inserts had a
key. -/
def RunsOnce (services : Services σ) (executed : σ → List String) (sql : String) : Prop :=
  ∀ world, (executed world).getLast? = some sql →
    executed (services.execute sql world).2 = executed world

/-- The attempts of a statement that succeeded. Of the ones before the last it is noted whether they
were run before the connection was lost. -/
structure Delivery where
  sql : String
  lost : List (Reply × Bool)
  reply : Reply

namespace Delivery

variable (delivery : Delivery)

def calls : List Call :=
  (delivery.lost.map fun attempt => .execute delivery.sql (.ok attempt.1)) ++
    [.execute delivery.sql (.ok delivery.reply)]

def executions : Nat := delivery.lost.countP (·.2) + 1

def executed : List String := List.replicate delivery.executions delivery.sql

structure Valid (attempts : Nat) : Prop where
  lost : ∀ attempt ∈ delivery.lost, attempt.1.connectionLost = true
  reply : delivery.reply.succeeded = true
  bounded : delivery.lost.length < attempts

/-- The delivery with one more attempt that was lost before. -/
def again (reply : Reply) (ran : Bool) : Delivery :=
  { delivery with lost := (reply, ran) :: delivery.lost }

variable {delivery}

theorem again_calls (reply : Reply) (ran : Bool) :
    (delivery.again reply ran).calls =
      .execute delivery.sql (.ok reply) :: delivery.calls := rfl

theorem Valid.again {attempts : Nat} {reply : Reply} (h : delivery.Valid attempts)
    (hLost : reply.connectionLost = true) (ran : Bool) :
    (delivery.again reply ran).Valid (attempts + 1) where
  lost attempt hMem := by
    obtain rfl | hMem := List.mem_cons.mp hMem
    · exact hLost
    · exact h.lost attempt hMem
  reply := h.reply
  bounded := Nat.succ_lt_succ h.bounded

end Delivery

section Executes

variable {backend : Backend σ} {executed : σ → List String}

theorem delivery_of_resolves (h : Executes backend.services executed) {sql : String} {left : Nat}
    {answers : List (Except UpdateError Reply)} {outcome : Except UpdateError (List String)}
    {lines : List String} {world after : σ}
    (hPath : Path backend.services world (answers.map (.execute sql)) after)
    (hResolves : Resolves backend.attempts sql left answers outcome)
    (hOutcome : outcome = .ok lines) :
    ∃ delivery : Delivery, delivery.sql = sql ∧ delivery.calls = answers.map (.execute sql) ∧
      delivery.Valid left ∧ executed after = executed world ++ delivery.executed ∧
      (RunsOnce backend.services executed sql → delivery.executions = 1 ∧
        (executed world).getLast? ≠ some sql) := by
  induction hResolves generalizing world with
  | exhausted | unreachable | rejected => cases hOutcome
  | @succeeded left reply hSucceeded =>
    obtain _ | ⟨hAnswer, hRest⟩ := hPath
    cases hRest
    have hRun := h.succeeded hAnswer hSucceeded
    refine ⟨{ sql, lost := [], reply }, rfl, rfl, ⟨by simp, hSucceeded, by simp⟩, hRun, ?_⟩
    intro hOnce
    refine ⟨rfl, fun hLast => ?_⟩
    have hSame := hOnce world hLast
    rw [hAnswer, hRun] at hSame
    simp at hSame
  | @lost left reply answers outcome hLost _ ih =>
    obtain _ | @⟨_, _, _, middle, _, _, hAnswer, hRest⟩ := hPath
    obtain ⟨delivery, rfl, hCalls, hValid, hExecuted, hOnce⟩ := ih hRest hOutcome
    have hMade (ran : Bool) : (delivery.again reply ran).calls =
        (.ok reply :: answers).map (.execute delivery.sql) := by
      rw [Delivery.again_calls, hCalls, List.map_cons]
    obtain hSame | hRun := h.attempt hAnswer
    · refine ⟨delivery.again reply false, rfl, hMade false, hValid.again hLost false, ?_,
        fun hRuns => ?_⟩
      · rw [hExecuted, hSame]
        rfl
      · rw [← hSame]
        exact hOnce hRuns
    · refine ⟨delivery.again reply true, rfl, hMade true, hValid.again hLost true, ?_,
        fun hRuns => ?_⟩
      · rw [hExecuted, hRun, List.append_assoc, List.singleton_append]
        simp [Delivery.executed, Delivery.executions, Delivery.again, List.replicate_succ]
      · -- The last attempt was run although the statement had just been run.
        exact absurd (by simp [hRun]) (hOnce hRuns).2

theorem deliveries_of_succeeds (h : Executes backend.services executed) {statements : List String}
    {events : List Event} {calls : List Call} {world after : σ}
    (hSucceeds : Succeeds statements events) (hRealizes : Realizes backend.attempts events calls)
    (hPath : Path backend.services world calls after) :
    ∃ deliveries : List Delivery, deliveries.map Delivery.sql = statements ∧
      calls = deliveries.flatMap Delivery.calls ∧
      (∀ delivery ∈ deliveries, delivery.Valid backend.attempts) ∧
      executed after = executed world ++ deliveries.flatMap Delivery.executed ∧
      ∀ delivery ∈ deliveries, RunsOnce backend.services executed delivery.sql →
        delivery.executions = 1 := by
  induction hSucceeds generalizing calls world with
  | nil =>
    cases hRealizes
    cases hPath
    exact ⟨[], rfl, rfl, by simp, by simp, by simp⟩
  | @cons sql _ rest _ hEvent _ ih =>
    obtain ⟨lines, rfl⟩ := hEvent
    obtain _ | @⟨_, answers, _, _, later, hResolves, hLater⟩ := hRealizes
    obtain ⟨middle, hFirst, hRest⟩ := hPath.split
    obtain ⟨delivery, rfl, hCalls, hValid, hExecuted, hOnce⟩ :=
      delivery_of_resolves h hFirst hResolves rfl
    obtain ⟨deliveries, rfl, rfl, hAllValid, hAllExecuted, hAllOnce⟩ := ih hLater hRest
    refine ⟨delivery :: deliveries, rfl, by rw [← hCalls, List.flatMap_cons], ?_, ?_, ?_⟩
    · simpa [hValid] using hAllValid
    · rw [hAllExecuted, hExecuted, List.flatMap_cons, List.append_assoc]
    · intro other hMem hRuns
      obtain rfl | hMem := List.mem_cons.mp hMem
      · exact (hOnce hRuns).1
      · exact hAllOnce other hMem hRuns

/-- A server runs nothing but statements that are sent to it. -/
theorem executed_of_path (h : Executes backend.services executed) {calls : List Call}
    {world after : σ} (hPath : Path backend.services world calls after) :
    ∃ run, executed after = executed world ++ run ∧
      ∀ sql ∈ run, ∃ answer, .execute sql answer ∈ calls := by
  induction hPath with
  | nil => exact ⟨[], by simp, by simp⟩
  | @execute sql answer world middle _ _ hAnswer _ ih =>
    obtain ⟨run, hRun, hSent⟩ := ih
    have hLater := fun other hMem => (hSent other hMem).imp fun _ =>
      List.mem_cons_of_mem (Call.execute sql answer)
    obtain hSame | hExecuted := h.attempt hAnswer
    · exact ⟨run, by rw [hRun, hSame], hLater⟩
    · refine ⟨sql :: run, by rw [hRun, hExecuted]; simp, fun other hMem => ?_⟩
      obtain rfl | hMem := List.mem_cons.mp hMem
      · exact ⟨answer, by simp⟩
      · exact hLater other hMem
  | @allocate table scope answer world middle _ _ hAnswer _ ih =>
    obtain ⟨run, hRun, hSent⟩ := ih
    have hSame := h.allocate table scope world
    rw [hAnswer] at hSame
    exact ⟨run, by rw [hRun, hSame], fun sql hMem =>
      (hSent sql hMem).imp fun _ => List.mem_cons_of_mem _⟩
  | @clock date world middle _ _ hDate _ ih =>
    obtain ⟨run, hRun, hSent⟩ := ih
    have hSame := h.now world
    rw [hDate] at hSame
    exact ⟨run, by rw [hRun, hSame], fun sql hMem =>
      (hSent sql hMem).imp fun _ => List.mem_cons_of_mem _⟩

end Executes

/-- The statements of an application before those that store its block. -/
def openingStatements (keyword : String) (probe : Option String) (header : Header)
    (seqno : UInt32) : List String :=
  probe.toList ++ Statement.createValidityTable keyword header ::
    Statement.deleteSeqno header.table seqno

section Opening

variable {mode : Mode} {probe : Option String} {sql : String}
  {outcome : Except UpdateError (List String)}

theorem Misses.statement {events : List Event} {missing : Except UpdateError Bool}
    (h : Misses probe mode events missing) (hMem : .statement sql outcome ∈ events) :
    sql ∈ probe.toList := by
  obtain hProbes | _ := h
  · cases hProbes <;> simp at hMem <;> simp [hMem]
  · cases hMem

theorem Ensures.statement {keyword : String} {header : Header} {events : List Event}
    {created : Except UpdateError Bool}
    (h : Ensures mode probe (Written.creation keyword header) events created)
    (hMem : .statement sql outcome ∈ events) (seqno : UInt32) :
    sql ∈ openingStatements keyword probe header seqno := by
  have hProbed {events : List Event} {missing : Except UpdateError Bool}
      (hMisses : Misses probe mode events missing) (hMem : .statement sql outcome ∈ events) :
      sql ∈ openingStatements keyword probe header seqno :=
    List.mem_append_left _ (hMisses.statement hMem)
  cases h with
  | unknown hMisses | present hMisses => exact hProbed hMisses hMem
  | created lines hMisses | refused e hMisses =>
    obtain hBefore | hCreate := List.mem_append.mp hMem
    · exact hProbed hMisses hBefore
    · cases List.mem_singleton.mp hCreate
      rw [← Written.createValidityTable_eq]
      simp [openingStatements]

theorem Acquires.statement {keyword : String} {header : Header} {scope : Scope}
    {events : List Event} {seqno : UInt32}
    (h : Acquires header.table scope mode events (.ok seqno))
    (hMem : .statement sql outcome ∈ events) :
    sql ∈ openingStatements keyword probe header seqno := by
  obtain _ | hRemoves | _ := h
  · cases hRemoves
    simp only [List.mem_cons, reduceCtorEq, Event.statement.injEq, List.not_mem_nil, false_or,
      or_false, ← Written.deleteFrom_eq] at hMem
    obtain ⟨rfl, -⟩ | ⟨rfl, -⟩ := hMem <;>
      simp [openingStatements, Statement.deleteSeqno, validityTable]
  · cases hMem

end Opening

theorem Realizes.opening {attempts : Nat} {mode : Mode} {keyword : String} {probe : Option String}
    {header : Header} {scope : Scope} {created : Bool} {seqno : UInt32}
    {opening number : List Event} {calls : List Call}
    (h : Realizes attempts (opening ++ number) calls)
    (hEnsures : Ensures mode probe (Written.creation keyword header) opening (.ok created))
    (hAcquires : Acquires header.table scope mode number (.ok seqno)) {sql : String}
    {answer : Except UpdateError Reply} (hSent : .execute sql answer ∈ calls) :
    sql ∈ openingStatements keyword probe header seqno := by
  obtain ⟨outcome, hEvent⟩ := h.statement_of_execute hSent
  obtain hEvent | hEvent := List.mem_append.mp hEvent
  · exact hEnsures.statement hEvent seqno
  · exact hAcquires.statement hEvent

theorem groups_of_deliveries {settings : BlockSettings} {inserted : String} {header : Header}
    {rows : Rows} {seqno : UInt32} {deliveries : List Delivery}
    (h : deliveries.map Delivery.sql = storingStatements settings inserted header rows seqno) :
    ∃ (groups : List (List (String × Nat))) (inserts : List Delivery) (validity : Delivery),
      deliveries = inserts ++ [validity] ∧ groups.flatten = rows.toList.zipIdx ∧
      (∀ group ∈ groups, group ≠ []) ∧
      inserts.map Delivery.sql = groups.map (Statement.insertGroup header.table seqno) ∧
      validity.sql = Statement.insertValidityRow header seqno inserted := by
  obtain ⟨groups, ⟨hFlatten, hGroups⟩, hStatements⟩ :=
    storingStatements_groups settings inserted header rows seqno
  rw [hStatements] at h
  obtain ⟨inserts, last, rfl, hInsertsSql, hLast⟩ := List.map_eq_append_iff.mp h
  obtain ⟨validity, _, rfl, hValidity, hNone⟩ := List.map_eq_cons_iff.mp hLast
  cases List.map_eq_nil_iff.mp hNone
  exact ⟨groups, inserts, validity, rfl, hFlatten, hGroups, hInsertsSql, hValidity⟩

/-- How a block was stored: what the server ran before, and the deliveries of the statements that
insert its rows, in groups, and its validity row. -/
structure Storage where
  opened : List String
  groups : List (List (String × Nat))
  inserts : List Delivery
  validity : Delivery

namespace Storage

variable (storage : Storage)

def deliveries : List Delivery := storage.inserts ++ [storage.validity]

def executed : List String := storage.opened ++ storage.deliveries.flatMap Delivery.executed

/-- Each row is in exactly one group, the groups are what the statements insert, and nothing else
that was run inserts anything. A statement whose rows have a key was run once. -/
structure Delivers (backend : Backend σ) (executed : σ → List String) (probe : Option String)
    (inserted : String) (header : Header) (rows : Rows) (seqno : UInt32) : Prop where
  opened : ∀ sql ∈ storage.opened,
    sql ∈ openingStatements backend.createKeyword probe header seqno
  groups : ∀ group ∈ storage.groups, group ≠ []
  rows : storage.groups.flatten = rows.toList.zipIdx
  inserts : storage.inserts.map Delivery.sql =
    storage.groups.map (Statement.insertGroup header.table seqno)
  validity : storage.validity.sql = Statement.insertValidityRow header seqno inserted
  valid : ∀ delivery ∈ storage.deliveries, delivery.Valid backend.attempts
  once : ∀ delivery ∈ storage.deliveries, RunsOnce backend.services executed delivery.sql →
    delivery.executions = 1

end Storage

namespace Block

variable {backend : Backend σ} {executed : σ → List String}

/-- What a server has run for a block that was applied: its statements in order, each of them once
and once more for each attempt that it ran before the connection was lost. -/
theorem applyAt_deliveries (hExecutes : Executes backend.services executed)
    {settings : BlockSettings} {inserted : String} {header : Header} {rows : Rows}
    {session : Session σ} {report : BlockReport} (hRows : rows.isEmpty = false)
    (h : (applyAt backend inserted { settings, stage := .ready header rows } session).1.1 =
      .ok report) :
    let block : Block := { settings, stage := .ready header rows }
    ∃ (storage : Storage) (opening : List Call),
      storage.Delivers backend executed
        (backend.services.probe header.validityTable session.world) inserted header rows
        report.seqno ∧
      block.calls backend inserted session =
        opening ++ storage.deliveries.flatMap Delivery.calls ∧
      executed (applyAt backend inserted block session).2.world =
        executed session.world ++ storage.executed := by
  intro block
  obtain ⟨events, hRealizes, hApplication, hPath⟩ :=
    applyAt_events backend settings inserted header rows session hRows
  rw [h] at hApplication
  generalize hStage : (applyAt backend inserted block session).1.2.stage = stage at hApplication
  obtain _ | _ | _ |
    @⟨opening, number, storing, created, seqno, hEnsures, hAcquires, hStores⟩ := hApplication
  obtain hSucceeds | _ := hStores
  obtain ⟨made, stored, hCalls, hOpened, hStored⟩ := hRealizes.split
  rw [hCalls] at hPath ⊢
  obtain ⟨middle, hBefore, hAfter⟩ := hPath.split
  obtain ⟨opened, hExecuted, hSent⟩ := executed_of_path hExecutes hBefore
  obtain ⟨deliveries, hSql, rfl, hValid, hRun, hOnce⟩ :=
    deliveries_of_succeeds hExecutes hSucceeds hStored hAfter
  obtain ⟨groups, inserts, validity, rfl, hFlatten, hGroups, hInserts, hValidity⟩ :=
    groups_of_deliveries hSql
  refine ⟨{ opened, groups, inserts, validity }, made, ?_, rfl, ?_⟩
  · exact {
      opened := fun sql hMem => by
        obtain ⟨answer, hMade⟩ := hSent sql hMem
        exact hOpened.opening hEnsures hAcquires hMade
      groups := hGroups
      rows := hFlatten
      inserts := hInserts
      validity := hValidity
      valid := hValid
      once := hOnce }
  · rw [hRun, hExecuted, List.append_assoc]
    rfl

end Block

/-- A server that runs every attempt, and may lose the connection before it answers. -/
structure Server where
  log : List String := []
  /-- Whether the connection is lost, for each of the next attempts. -/
  losing : List Bool := []

namespace Server

def lostReply : Reply where
  exitCode := 1
  lines := ["ERROR 2013 (HY000): Lost connection to MySQL server during query"]

def services : Services Server where
  execute sql server :=
    (.ok (if server.losing.headD false then lostReply else {}),
      { log := server.log ++ [sql], losing := server.losing.tail })
  probe _ _ := none
  allocate _ _ server := (.ok 5, server)
  now server := ("2020-01-01 00:00:00", server)

theorem executes : Executes services log where
  attempt h := by
    cases h
    exact .inr rfl
  succeeded h _ := by
    cases h
    rfl
  allocate _ _ _ := rfl
  now _ := rfl

def backend : Backend Server where
  services
  maxAttempts := 3
  mode := .durable

end Server

namespace Block

/-- The connection is lost after both deletions succeeded and the rows were inserted. -/
def resent : (Except UpdateError BlockReport × Block) × Session Server :=
  applyAt Server.backend "2020-01-01 00:00:00"
    { settings := { scope := .locally }, stage := .ready demoHeader demoRows }
    { world := { losing := [false, false, true] } }

/-- A block that was applied may be stored twice. -/
theorem applyAt_resent :
    Executes Server.backend.services Server.log ∧
      resent.1.1.toOption.map (·.seqno) = some 5 ∧
      resent.2.world.log.count "INSERT INTO DEMO VALUES (5,1,1,2);" = 2 :=
  ⟨Server.executes, by decide +kernel, by decide +kernel⟩

theorem applyAt_deliveries_resent :
    resent.1.1.toOption.map (·.seqno) = some 5 ∧
      ∃ storage : Storage,
        storage.Delivers Server.backend Server.log none "2020-01-01 00:00:00" demoHeader
          demoRows 5 ∧
        resent.2.world.log = storage.executed := by
  have hSeqno : resent.1.1.toOption.map (·.seqno) = some 5 := by decide +kernel
  refine ⟨hSeqno, ?_⟩
  unfold resent at hSeqno ⊢
  cases hResult : (applyAt Server.backend "2020-01-01 00:00:00"
    { settings := { scope := .locally }, stage := .ready demoHeader demoRows }
    { world := { losing := [false, false, true] } }).1.1 with
  | error e =>
    rw [hResult] at hSeqno
    cases hSeqno
  | ok report =>
    rw [hResult] at hSeqno
    obtain ⟨storage, _, hDelivers, -, hLog⟩ := applyAt_deliveries Server.executes rfl hResult
    rw [show report.seqno = 5 from Option.some.inj hSeqno] at hDelivers
    exact ⟨storage, hDelivers, hLog⟩

end Block

end ValidityTables
