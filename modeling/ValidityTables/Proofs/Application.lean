import ValidityTables.Services.Script
import ValidityTables.Proofs.Events
import ValidityTables.Proofs.Recording
import ValidityTables.Proofs.StatementTexts
import Mathlib.Data.List.Forall2

/-! # The events of an application

The protocol by which a block is applied: its table of validity rows is made sure of, a sequence
number is acquired, and the statements that store the block are run, up to the first that fails;
then what is stored under the number is removed. Each part has a relation that says which events it
may have and what comes of it, and a theorem that the part keeps to it.
-/

namespace ValidityTables

variable {σ : Type}

/-- Whether a statement was refused by a store that could be asked. -/
def UpdateError.isRejection : UpdateError → Bool
  | .execution _ _ _ => true
  | _ => false

/-- Asking whether a table exists, by the given probe. -/
inductive Probes : Option String → List Event → Except UpdateError Bool → Prop
  | trusted : Probes none [] (.ok true)
  | present (sql : String) (lines : List String) :
      Probes (some sql) [.statement sql (.ok lines)] (.ok true)
  | missing {sql : String} {e : UpdateError} : e.isRejection = true →
      Probes (some sql) [.statement sql (.error e)] (.ok false)
  | failed {sql : String} {e : UpdateError} : e.isRejection = false →
      Probes (some sql) [.statement sql (.error e)] (.error e)

/-- Finding out whether a table of validity rows has to be created. -/
inductive Misses (probe : Option String) :
    Mode → List Event → Except UpdateError Bool → Prop
  | probed {events : List Event} {found : Except UpdateError Bool} : Probes probe events found →
      Misses probe .durable events (found.map not)
  | remembered (missing : Bool) : Misses probe .ephemeral [] (.ok missing)

/-- Making sure of a table of validity rows. What comes of it tells whether it was created. -/
inductive Ensures (mode : Mode) (probe : Option String) (create : String) :
    List Event → Except UpdateError Bool → Prop
  | unknown {events : List Event} {e : UpdateError} : Misses probe mode events (.error e) →
      Ensures mode probe create events (.error e)
  | present {events : List Event} : Misses probe mode events (.ok false) →
      Ensures mode probe create events (.ok false)
  | created {events : List Event} (lines : List String) : Misses probe mode events (.ok true) →
      Ensures mode probe create (events ++ [.statement create (.ok lines)]) (.ok true)
  | refused {events : List Event} (e : UpdateError) : Misses probe mode events (.ok true) →
      Ensures mode probe create (events ++ [.statement create (.error e)]) (.error e)

/-- Removing what is stored under a sequence number, whatever comes of it. -/
inductive Removes (table : String) (seqno : UInt32) : Mode → List Event → Prop
  | deleted (rows validity : Except UpdateError (List String)) : Removes table seqno .durable
      [.statement (Written.deletion table seqno) rows,
        .statement (Written.deletion (table ++ "VLD") seqno) validity]
  | nothing : Removes table seqno .ephemeral []

/-- Acquiring a sequence number, and clearing what is left under it. -/
inductive Acquires (table : String) (scope : Scope) :
    Mode → List Event → Except UpdateError UInt32 → Prop
  | refused (e : UpdateError) :
      Acquires table scope .durable [.request table scope (.error e)] (.error e)
  | allocated {seqno : UInt32} {events : List Event} : Removes table seqno .durable events →
      Acquires table scope .durable (.request table scope (.ok seqno) :: events) (.ok seqno)
  | counted (seqno : UInt32) : Acquires table scope .ephemeral [] (.ok seqno)

/-- The statements that succeeded, each with its event. -/
def Succeeds (statements : List String) (events : List Event) : Prop :=
  List.Forall₂ (fun sql event => ∃ lines, event = Event.statement sql (.ok lines)) statements events

theorem Succeeds.cons {statements : List String} {events : List Event} (sql : String)
    (lines : List String) (h : Succeeds statements events) :
    Succeeds (sql :: statements) (.statement sql (.ok lines) :: events) :=
  List.Forall₂.cons ⟨lines, rfl⟩ h

theorem Succeeds.split {before later : List String} {events : List Event}
    (h : Succeeds (before ++ later) events) :
    ∃ first second, events = first ++ second ∧ Succeeds before first ∧ Succeeds later second := by
  induction before generalizing events with
  | nil => exact ⟨[], events, rfl, .nil, h⟩
  | cons sql rest ih =>
    obtain _ | ⟨⟨lines, rfl⟩, hRest⟩ := h
    obtain ⟨first, second, rfl, hFirst, hSecond⟩ := ih hRest
    exact ⟨_, second, rfl, hFirst.cons sql lines, hSecond⟩

theorem Succeeds.mem {statements : List String} {events : List Event} {event : Event}
    (h : Succeeds statements events) (hMem : event ∈ events) :
    ∃ sql ∈ statements, ∃ lines, event = .statement sql (.ok lines) := by
  induction h with
  | nil => cases hMem
  | @cons sql _ _ _ hEvent _ ih =>
    obtain rfl | hRest := List.mem_cons.mp hMem
    · exact ⟨sql, List.mem_cons_self, hEvent⟩
    · obtain ⟨other, hOther, hLines⟩ := ih hRest
      exact ⟨other, List.mem_cons_of_mem _ hOther, hLines⟩

/-- Running the statements that store a block. After the first that fails, what is stored under the
number is removed. -/
inductive Stores (mode : Mode) (table : String) (seqno : UInt32) (statements : List String) :
    List Event → Except UpdateError Unit → Prop
  | all {events : List Event} : Succeeds statements events →
      Stores mode table seqno statements events (.ok ())
  | failed {done rest : List String} {sql : String} {e : UpdateError}
      {events removal : List Event} :
      statements = done ++ sql :: rest → Succeeds done events → Removes table seqno mode removal →
      Stores mode table seqno statements (events ++ .statement sql (.error e) :: removal) (.error e)

/-- The statements that store the rows of a block and its validity row. -/
def storingStatements (settings : BlockSettings) (inserted : String) (header : Header)
    (rows : Rows) (seqno : UInt32) : List String :=
  Statement.insertRows header.table seqno rows.toList settings.maxValuesBytes ++
    [Statement.insertValidityRow header seqno inserted]

theorem storingStatements_groups (settings : BlockSettings) (inserted : String) (header : Header)
    (rows : Rows) (seqno : UInt32) :
    ∃ groups, Statement.Divides rows.toList.zipIdx groups ∧
      storingStatements settings inserted header rows seqno =
        groups.map (Statement.insertGroup header.table seqno) ++
          [Statement.insertValidityRow header seqno inserted] := by
  obtain ⟨groups, hDivides, -, hInserts⟩ :=
    Statement.insertRows_divides header.table seqno rows.toList settings.maxValuesBytes
  exact ⟨groups, hDivides, by rw [storingStatements, hInserts]⟩

theorem storingStatements_written (settings : BlockSettings) (inserted : String) (header : Header)
    (rows : Rows) (seqno : UInt32) :
    ∃ groups, Statement.Divides rows.toList.zipIdx groups ∧
      storingStatements settings inserted header rows seqno =
        Written.storing header seqno inserted groups := by
  obtain ⟨groups, hDivides, hStatements⟩ :=
    storingStatements_groups settings inserted header rows seqno
  refine ⟨groups, hDivides, ?_⟩
  rw [hStatements, Written.insertValidityRow_eq]
  rfl

def storedReport (settings : BlockSettings) (header : Header) (rows : Rows) (created : Bool)
    (seqno : UInt32) : BlockReport where
  table := header.table
  seqno
  rows := rows.size
  insertStatements :=
    (Statement.insertRows header.table seqno rows.toList settings.maxValuesBytes).length
  convertedUnsigned := rows.converted
  createdValidityTable := created

/-- How the creation of a table begins. -/
def Mode.creating : Mode → String
  | .durable => "CREATE TABLE"
  | .ephemeral => "CREATE TEMPORARY TABLE"

theorem Backend.createKeyword_eq (backend : Backend σ) :
    backend.createKeyword = backend.mode.creating := by
  rw [createKeyword]
  cases backend.mode <;> rfl

/-- One application of a block with its events, its result and its new stage. -/
inductive Application (mode : Mode) (keyword : String) (probe : Option String)
    (settings : BlockSettings) (inserted : String) (header : Header) (rows : Rows) :
    List Event → Except UpdateError BlockReport × Stage → Prop
  | notEnsured {events : List Event} {e : UpdateError} :
      Ensures mode probe (Written.creation keyword header) events (.error e) →
      Application mode keyword probe settings inserted header rows events
        (.error (.applyFailed header.table header.validFrom header.validTo e),
          .failed header rows none)
  | notAcquired {opening number : List Event} {created : Bool} {e : UpdateError} :
      Ensures mode probe (Written.creation keyword header) opening (.ok created) →
      Acquires header.table settings.scope mode number (.error e) →
      Application mode keyword probe settings inserted header rows (opening ++ number)
        (.error (.applyFailed header.table header.validFrom header.validTo e),
          .failed header rows none)
  | notStored {opening number storing : List Event} {created : Bool} {seqno : UInt32}
      {e : UpdateError} :
      Ensures mode probe (Written.creation keyword header) opening (.ok created) →
      Acquires header.table settings.scope mode number (.ok seqno) →
      Stores mode header.table seqno
        (storingStatements settings inserted header rows seqno) storing (.error e) →
      Application mode keyword probe settings inserted header rows (opening ++ number ++ storing)
        (.error (.applyFailed header.table header.validFrom header.validTo e),
          .failed header rows (some seqno))
  | stored {opening number storing : List Event} {created : Bool} {seqno : UInt32} :
      Ensures mode probe (Written.creation keyword header) opening (.ok created) →
      Acquires header.table settings.scope mode number (.ok seqno) →
      Stores mode header.table seqno
        (storingStatements settings inserted header rows seqno) storing (.ok ()) →
      Application mode keyword probe settings inserted header rows (opening ++ number ++ storing)
        (.ok (storedReport settings header rows created seqno), .applied header rows seqno)

namespace Backend

variable {backend : Backend σ} {session after : Session σ}

theorem queryLeniently_traces {sql : String} {result : Except UpdateError Unit}
    (h : backend.queryLeniently sql session = (result, after)) :
    result = .ok () ∧
      ∃ outcome, backend.Traces session.world [.statement sql outcome] after.world := by
  simp only [queryLeniently, Action.tryCatch_apply, Action.discard_apply] at h
  rcases hQuery : backend.query sql session with ⟨outcome, middle⟩
  have hTraces := backend.query_traces hQuery
  rw [hQuery] at h
  cases outcome <;> cases h <;> exact ⟨rfl, _, hTraces⟩

theorem tableExists_traces {table : String} {found : Except UpdateError Bool}
    (h : backend.tableExists table session = (found, after)) :
    ∃ events, Probes (backend.services.probe table session.world) events found ∧
      backend.Traces session.world events after.world := by
  unfold tableExists at h
  cases hProbe : backend.services.probe table session.world with
  | none =>
    rw [hProbe] at h
    cases h
    exact ⟨[], .trusted, .nil _⟩
  | some sql =>
    rw [hProbe] at h
    rcases hQuery : backend.query sql session with ⟨outcome, middle⟩
    have hTraces := backend.query_traces hQuery
    simp only [hQuery] at h
    cases outcome with
    | ok lines => cases h; exact ⟨_, .present sql lines, hTraces⟩
    | error e =>
      cases e <;> cases h <;> first
        | exact ⟨_, .missing rfl, hTraces⟩
        | exact ⟨_, .failed rfl, hTraces⟩

theorem validityTableMissing_traces {name : String} {missing : Except UpdateError Bool}
    (h : backend.validityTableMissing name session = (missing, after)) :
    ∃ events,
      Misses (backend.services.probe name session.world) backend.mode events missing ∧
      backend.Traces session.world events after.world := by
  unfold validityTableMissing at h
  cases hMode : backend.mode with
  | durable =>
    simp only [hMode, Action.bind_apply] at h
    rcases hFound : backend.tableExists name session with ⟨found, middle⟩
    obtain ⟨events, hProbes, hTraces⟩ := tableExists_traces hFound
    rw [hFound] at h
    cases found <;> cases h <;> exact ⟨events, .probed hProbes, hTraces⟩
  | ephemeral =>
    simp only [hMode] at h
    cases h
    exact ⟨[], .remembered _, .nil _⟩

theorem removeSeqno_traces {table : String} {seqno : UInt32} {result : Except UpdateError Unit}
    (h : backend.removeSeqno table seqno session = (result, after)) :
    result = .ok () ∧ ∃ events, Removes table seqno backend.mode events ∧
      backend.Traces session.world events after.world := by
  unfold removeSeqno at h
  cases hMode : backend.mode with
  | durable =>
    simp only [hMode, Statement.deleteSeqno, List.forM, Action.bind_apply] at h
    rcases hRows : backend.queryLeniently (Statement.deleteFrom table seqno) session with
      ⟨first, middle⟩
    obtain ⟨rfl, rows, hRowsTraces⟩ := queryLeniently_traces hRows
    rcases hValidity : backend.queryLeniently (Statement.deleteFrom (validityTable table) seqno)
      middle with ⟨second, last⟩
    obtain ⟨rfl, validity, hValidityTraces⟩ := queryLeniently_traces hValidity
    simp only [hRows, hValidity] at h
    cases h
    exact ⟨rfl, _, .deleted rows validity, hRowsTraces.append hValidityTraces⟩
  | ephemeral =>
    simp only [hMode] at h
    cases h
    exact ⟨rfl, [], .nothing, .nil _⟩

theorem allocate_traces {table : String} {scope : Scope} {answer : Except UpdateError UInt32}
    (h : backend.allocate table scope session = (answer, after)) :
    backend.Traces session.world [.request table scope answer] after.world := by
  cases h
  exact ⟨_, .allocate rfl (.nil _), .request .nil⟩

theorem acquireSeqno_traces {table : String} {scope : Scope} {answer : Except UpdateError UInt32}
    (h : backend.acquireSeqno table scope session = (answer, after)) :
    ∃ events, Acquires table scope backend.mode events answer ∧
      backend.Traces session.world events after.world := by
  unfold acquireSeqno at h
  cases hMode : backend.mode with
  | durable =>
    simp only [hMode, Action.bind_apply] at h
    rcases hAllocate : backend.allocate table scope session with ⟨number, middle⟩
    have hTraces := allocate_traces hAllocate
    rw [hAllocate] at h
    cases number with
    | error e => cases h; exact ⟨_, .refused e, hTraces⟩
    | ok seqno =>
      rcases hRemove : backend.removeSeqno table seqno middle with ⟨result, last⟩
      obtain ⟨rfl, events, hRemoves, hRemoveTraces⟩ := removeSeqno_traces hRemove
      simp only [hRemove] at h
      cases h
      rw [hMode] at hRemoves
      exact ⟨_, .allocated hRemoves, hTraces.append hRemoveTraces⟩
  | ephemeral =>
    simp only [hMode] at h
    cases h
    exact ⟨[], .counted _, .nil _⟩

theorem noteValidityTable_ok {name : String} {result : Except UpdateError Unit}
    (h : backend.noteValidityTable name session = (result, after)) :
    result = .ok () ∧ after.world = session.world := by
  unfold noteValidityTable at h
  cases hMode : backend.mode <;> rw [hMode] at h <;> cases h <;> exact ⟨rfl, rfl⟩

end Backend

namespace Block

variable {backend : Backend σ} {session after : Session σ}

theorem ensureValidityTable_traces {header : Header} {created : Except UpdateError Bool}
    (h : ensureValidityTable backend header session = (created, after)) :
    ∃ events,
      Ensures backend.mode (backend.services.probe header.validityTable session.world)
        (Written.creation backend.createKeyword header) events created ∧
      backend.Traces session.world events after.world := by
  rw [ensureValidityTable, Action.bind_apply, Written.createValidityTable_eq] at h
  rcases hMissing : backend.validityTableMissing header.validityTable session with ⟨missing, middle⟩
  obtain ⟨events, hMisses, hTraces⟩ := Backend.validityTableMissing_traces hMissing
  rw [hMissing] at h
  cases missing with
  | error e => cases h; exact ⟨events, .unknown hMisses, hTraces⟩
  | ok missing =>
    cases missing with
    | false => cases h; exact ⟨events, .present hMisses, hTraces⟩
    | true =>
      simp only [if_true, Action.bind_apply, Action.discard_apply] at h
      rcases hNote : backend.noteValidityTable header.validityTable middle with ⟨noted, next⟩
      obtain ⟨rfl, hWorld⟩ := Backend.noteValidityTable_ok hNote
      simp only [hNote] at h
      rcases hCreate : backend.query (Written.creation backend.createKeyword header) next with
        ⟨outcome, last⟩
      have hCreateTraces := backend.query_traces hCreate
      rw [hWorld] at hCreateTraces
      rw [hCreate] at h
      cases outcome with
      | ok lines => cases h; exact ⟨_, .created lines hMisses, hTraces.append hCreateTraces⟩
      | error e => cases h; exact ⟨_, .refused e hMisses, hTraces.append hCreateTraces⟩

theorem runAll_traces {statements : List String} {result : Except UpdateError Unit}
    (h : runAll backend statements session = (result, after)) :
    ∃ events, backend.Traces session.world events after.world ∧
      match result with
      | .ok () => Succeeds statements events
      | .error e => ∃ done sql rest before, statements = done ++ sql :: rest ∧
          Succeeds done before ∧ events = before ++ [.statement sql (.error e)] := by
  induction statements generalizing session with
  | nil => cases h; exact ⟨[], .nil _, .nil⟩
  | cons sql rest ih =>
    rw [runAll, Action.bind_apply, Action.discard_apply] at h
    rcases hQuery : backend.query sql session with ⟨outcome, middle⟩
    have hTraces := backend.query_traces hQuery
    rw [hQuery] at h
    cases outcome with
    | error e => cases h; exact ⟨_, hTraces, [], sql, rest, [], rfl, .nil, rfl⟩
    | ok lines =>
      obtain ⟨events, hRest, hResult⟩ := ih h
      refine ⟨_, hTraces.append hRest, ?_⟩
      cases result with
      | ok _ => exact Succeeds.cons sql lines hResult
      | error e =>
        obtain ⟨done, failing, left, before, rfl, hDone, rfl⟩ := hResult
        exact ⟨sql :: done, failing, left, _, rfl, hDone.cons sql lines, rfl⟩

theorem store_traces {table : String} {seqno : UInt32} {statements : List String}
    {result : Except UpdateError Unit}
    (h : store backend table seqno statements session = (result, after)) :
    ∃ events, Stores backend.mode table seqno statements events result ∧
      backend.Traces session.world events after.world := by
  rw [store, Action.tryCatch_apply] at h
  rcases hRun : runAll backend statements session with ⟨ran, middle⟩
  obtain ⟨events, hTraces, hRan⟩ := runAll_traces hRun
  rw [hRun] at h
  cases ran with
  | ok _ => cases h; exact ⟨events, .all hRan, hTraces⟩
  | error e =>
    obtain ⟨done, sql, rest, before, hStatements, hDone, rfl⟩ := hRan
    simp only [Action.bind_apply] at h
    rcases hRemove : backend.removeSeqno table seqno middle with ⟨removed, last⟩
    obtain ⟨rfl, removal, hRemoves, hRemoveTraces⟩ := Backend.removeSeqno_traces hRemove
    rw [hRemove] at h
    cases h
    refine ⟨_, .failed hStatements hDone hRemoves, ?_⟩
    simpa using hTraces.append hRemoveTraces

theorem applyReady_traces {settings : BlockSettings} {inserted : String} {header : Header}
    {rows : Rows} {outcome : Except UpdateError BlockReport × Stage}
    (h : applyReady backend settings inserted header rows session = (outcome, after)) :
    ∃ events,
      Application backend.mode backend.createKeyword
        (backend.services.probe header.validityTable session.world) settings inserted header rows
        events outcome ∧
      backend.Traces session.world events after.world := by
  rw [applyReady, Action.state_bind_apply] at h
  rcases hEnsure : ensureValidityTable backend header session with ⟨created, opened⟩
  obtain ⟨opening, hEnsures, hOpening⟩ := ensureValidityTable_traces hEnsure
  simp only [ExceptT.run, hEnsure] at h
  cases created with
  | error e => cases h; exact ⟨_, .notEnsured hEnsures, hOpening⟩
  | ok created =>
    simp only [Action.state_bind_apply] at h
    rcases hAcquire : backend.acquireSeqno header.table settings.scope opened with
      ⟨answer, numbered⟩
    obtain ⟨number, hAcquires, hNumber⟩ := Backend.acquireSeqno_traces hAcquire
    have hNumbered := hOpening.append hNumber
    simp only [hAcquire] at h
    cases answer with
    | error e => cases h; exact ⟨_, .notAcquired hEnsures hAcquires, hNumbered⟩
    | ok seqno =>
      simp only [Action.state_bind_apply] at h
      rcases hStore : store backend header.table seqno
        (storingStatements settings inserted header rows seqno) numbered with ⟨stored, last⟩
      obtain ⟨storing, hStores, hStoring⟩ := store_traces hStore
      have hAll := hNumbered.append hStoring
      rw [storingStatements] at hStore
      rw [hStore] at h
      cases stored with
      | error e => cases h; exact ⟨_, .notStored hEnsures hAcquires hStores, hAll⟩
      | ok _ => cases h; exact ⟨_, .stored hEnsures hAcquires hStores, hAll⟩

/-- The calls of an application are those of its events, and they lead to the world after it. -/
theorem applyAt_events (backend : Backend σ) (settings : BlockSettings) (inserted : String)
    (header : Header) (rows : Rows) (session : Session σ) (hRows : rows.isEmpty = false) :
    let block : Block := { settings, stage := .ready header rows }
    let ended := applyAt backend inserted block session
    ∃ events, Realizes backend.attempts events (block.calls backend inserted session) ∧
      Application backend.mode backend.createKeyword
        (backend.services.probe header.validityTable session.world) settings inserted header rows
        events (ended.1.1, ended.1.2.stage) ∧
      Path backend.services session.world (block.calls backend inserted session)
        ended.2.world := by
  intro block ended
  have hReady {τ : Type} (backend : Backend τ) (session : Session τ) :
      applyAt backend inserted block session =
        let (ended, after) := applyReady backend settings inserted header rows session
        ((ended.1, { block with stage := ended.2 }), after) := by
    simp only [applyAt, block, hRows]
    rfl
  -- The recorded run keeps to the protocol, and it is the plain run once its record is forgotten.
  rcases hApply : applyReady backend.recorded settings inserted header rows
    (session.recording []) with ⟨⟨result, stage⟩, after⟩
  obtain ⟨events, hApplication, calls, hPath, hRealizes⟩ := applyReady_traces hApply
  have hCalls : block.calls backend inserted session = calls := by
    rw [Block.calls, hReady, hApply]
    exact hPath.recorded
  have hEnded : ended = ((result, { block with stage }), after.forget) := by
    have hMirrors := applyReady_mirrors backend settings inserted header rows (session.recording [])
    rw [hApply, Session.forget_recording] at hMirrors
    simp only [ended, hReady, hMirrors]
  rw [hEnded, hCalls]
  exact ⟨events, hRealizes, hApplication, hPath.forget⟩

/-- The protocol of an application: its calls are those of an application's events, and its result
and its new stage are what comes of them. Whatever the number, the statements that store the block
are those of its rows in consecutive groups, and that of its validity row. -/
theorem applyAt_application (backend : Backend σ) (settings : BlockSettings) (inserted : String)
    (header : Header) (rows : Rows) (session : Session σ) (hRows : rows.isEmpty = false) :
    let block : Block := { settings, stage := .ready header rows }
    let outcome := (applyAt backend inserted block session).1
    (∃ events, Realizes backend.attempts events (block.calls backend inserted session) ∧
      Application backend.mode backend.mode.creating
        (backend.services.probe (header.table ++ "VLD") session.world) settings inserted header
        rows events (outcome.1, outcome.2.stage)) ∧
    ∀ seqno, ∃ groups, Statement.Divides rows.toList.zipIdx groups ∧
      storingStatements settings inserted header rows seqno =
        Written.storing header seqno inserted groups := by
  intro block outcome
  obtain ⟨events, hRealizes, hApplication, -⟩ :=
    applyAt_events backend settings inserted header rows session hRows
  rw [backend.createKeyword_eq] at hApplication
  exact ⟨⟨events, hRealizes, hApplication⟩, storingStatements_written settings inserted header rows⟩

end Block

deriving instance DecidableEq for Call

def Script.backend : Backend Script where
  services := Script.services
  maxAttempts := 3
  mode := .durable

/-- A script over a store that takes every statement, with one number to hand out. -/
def Script.steady : Script where
  client := .store {}
  allocations := [.ok 5]
  date := "2020-01-01 00:00:00"

namespace Block

def demoHeader : Header where
  table := "DEMO"
  validFrom := "2001-01-01 00:00:00"
  validTo := "2002-01-01 00:00:00"
  aggregate := 1
  created := "2001-01-01 00:00:00"
  task := 0
  simMask := .data
  epoch := none

def demoRows : Rows where
  rows := #["1,2"]

def twoRows : Rows where
  rows := #["1,2", "3,4"]

/-- The calls of an application whose second insertion is rejected. The first deletion after it is
rejected as well. -/
def rejectedCalls : List Call :=
  [.execute "describe DEMOVLD" (.ok { exitCode := 1 }),
    .execute ("CREATE TABLE DEMOVLD (SEQNO integer not null primary key," ++
      "TIMESTART datetime not null,TIMEEND datetime not null,DETECTORMASK tinyint(4)," ++
      "SIMMASK tinyint(4),TASK integer,AGGREGATENO integer,CREATIONDATE datetime not null," ++
      "INSERTDATE datetime not null,key TIMESTART (TIMESTART), key TIMEEND (TIMEEND));") (.ok {}),
    .allocate "DEMO" .locally (.ok 5),
    .execute "DELETE FROM DEMO WHERE SEQNO=5" (.ok {}),
    .execute "DELETE FROM DEMOVLD WHERE SEQNO=5" (.ok {}),
    .execute "INSERT INTO DEMO VALUES (5,1,1,2);" (.ok {}),
    .execute "INSERT INTO DEMO VALUES (5,2,3,4);" (.ok { exitCode := 1, lines := ["duplicate"] }),
    .execute "DELETE FROM DEMO WHERE SEQNO=5" (.ok { exitCode := 1 }),
    .execute "DELETE FROM DEMOVLD WHERE SEQNO=5" (.ok {})]

/-- What is answered to these calls. -/
def rejecting : Script where
  client := .answers [.ok { exitCode := 1 }, .ok {}, .ok {}, .ok {}, .ok {},
    .ok { exitCode := 1, lines := ["duplicate"] }, .ok { exitCode := 1 }, .ok {}] true
  allocations := [.ok 5]
  date := "2020-01-01 00:00:00"

theorem applyAt_application_rejected :
    let settings : BlockSettings := { scope := .locally, maxValuesBytes := 10 }
    let block : Block := { settings, stage := .ready demoHeader twoRows }
    let session : Session Script := { world := rejecting }
    let result : Except UpdateError BlockReport :=
      .error (.applyFailed "DEMO" "2001-01-01 00:00:00" "2002-01-01 00:00:00"
        (.execution "INSERT INTO DEMO VALUES (5,2,3,4);" 1 ["duplicate"]))
    let stage : Stage := .failed demoHeader twoRows (some 5)
    twoRows.isEmpty = false ∧
      block.calls Script.backend "2020-01-01 00:00:00" session = rejectedCalls ∧
      (applyAt Script.backend "2020-01-01 00:00:00" block session).1 =
        (result, { settings, stage }) ∧
      ∃ events, Realizes 3 events rejectedCalls ∧
        Application .durable "CREATE TABLE" (some "describe DEMOVLD") settings
          "2020-01-01 00:00:00" demoHeader twoRows events (result, stage) := by
  intro settings block session result stage
  have hCalls : block.calls Script.backend "2020-01-01 00:00:00" session = rejectedCalls := by
    decide +kernel
  have hOutcome : (applyAt Script.backend "2020-01-01 00:00:00" block session).1 =
      (result, { settings, stage }) := by decide +kernel
  have hProbe : Script.backend.services.probe (demoHeader.table ++ "VLD") session.world =
      some "describe DEMOVLD" := by decide +kernel
  -- The run is known now. While its session is, every step below would run it again.
  clear_value session
  obtain ⟨⟨events, hRealizes, hApplication⟩, -⟩ := applyAt_application Script.backend settings
    "2020-01-01 00:00:00" demoHeader twoRows session rfl
  rw [hCalls] at hRealizes
  rw [hOutcome, hProbe] at hApplication
  exact ⟨rfl, hCalls, hOutcome, events, hRealizes, hApplication⟩

end Block

end ValidityTables
