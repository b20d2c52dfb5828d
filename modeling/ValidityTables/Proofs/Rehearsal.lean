import ValidityTables.Services.Script
import ValidityTables.Proofs.Answers
import ValidityTables.Proofs.Recording
import ValidityTables.Proofs.StatementReader

/-! # A rehearsal prints what a durable run executes

A rehearsal prints its statements, and keeps its own record of the tables that it has created and
of the numbers that it has handed out. A durable run asks its store and its allocator instead. Where
the store takes every statement and the numbers of each table are handed out in order, both runs of
a file come to the same, and the rehearsal prints what the durable run sends, but for the probes and
the deletions of the latter, and with temporary tables.
-/

namespace ValidityTables

open ScriptedStore

variable {σ τ : Type}

/-- The tables that exist, and how many numbers were handed out for each. -/
structure Catalogue where
  known : String → Bool
  given : String → Nat

namespace Catalogue

def executed (catalogue : Catalogue) (sql : String) : Catalogue :=
  match createdTable? sql with
  | some table =>
    { catalogue with known := fun name => name = table || catalogue.known name }
  | none => catalogue

def count (catalogue : Catalogue) (table : String) : Catalogue :=
  { catalogue with
    given := fun name => if name = table then catalogue.given table + 1 else catalogue.given name }

end Catalogue

/-- Services that accept every statement, answer a probe from the tables that exist, number the
requests for each table one after another, and show a fixed date. -/
structure Accepting (services : Services σ) (catalogue : σ → Catalogue) (date : String) : Prop where
  probe : ∀ table world, services.probe table world = some (describe table)
  described : ∀ {table world answer after},
    services.execute (describe table) world = (answer, after) →
    catalogue after = catalogue world ∧ ∃ reply, answer = .ok reply ∧
      reply.connectionLost = false ∧ reply.succeeded = (catalogue world).known table
  accepted : ∀ {sql world answer after}, described? sql = none →
    services.execute sql world = (answer, after) →
    catalogue after = (catalogue world).executed sql ∧ ∃ reply, answer = .ok reply ∧
      reply.succeeded = true
  allocate : ∀ {table scope world answer after},
    services.allocate table scope world = (answer, after) →
    answer = .ok (UInt32.ofNat ((catalogue world).given table + 1)) ∧
      catalogue after = (catalogue world).count table
  now : ∀ {world shown after}, services.now world = (shown, after) →
    shown = date ∧ catalogue after = catalogue world

/-- What a rehearsal prints for a statement of a durable run, if it prints anything. -/
def rehearsed? (sql : String) : Option String :=
  if (describe "").toList.isPrefixOf sql.toList || "DELETE FROM ".toList.isPrefixOf sql.toList then
    none
  else
    match Header.dropMarker? "CREATE TABLE ".toList sql.toList with
    | some rest => some ("CREATE TEMPORARY TABLE " ++ String.ofList rest)
    | none => some sql

theorem rehearsed?_describe (table : String) : rehearsed? (describe table) = none := by
  have hText : (describe table).toList = "describe ".toList ++ table.toList := String.toList_append
  rw [rehearsed?, hText]
  rfl

theorem deleteFrom_texts (table : String) (seqno : UInt32) :
    let sql := Statement.deleteFrom table seqno
    described? sql = none ∧ createdTable? sql = none ∧ rehearsed? sql = none := by
  intro sql
  have hText : sql.toList = "DELETE FROM ".toList ++
      (table.toList ++ (" WHERE SEQNO=".toList ++ (toString seqno).toList)) := by
    simp only [sql, Statement.deleteFrom, String.toList_append, List.append_assoc]
  refine ⟨?_, ?_, ?_⟩
  · rw [described?, hText]
    rfl
  · simp only [createdTable?, hText]
    rfl
  · rw [rehearsed?, hText]
    rfl

theorem insertValues_texts (table values : String) :
    let sql := Statement.insertValues table values
    described? sql = none ∧ createdTable? sql = none ∧ rehearsed? sql = some sql := by
  intro sql
  have hText : sql.toList = "INSERT INTO ".toList ++
      (table.toList ++ (" VALUES ".toList ++ (values.toList ++ [';']))) :=
    toList_five "INSERT INTO " table " VALUES " values ";"
  refine ⟨?_, ?_, ?_⟩
  · rw [described?, hText]
    rfl
  · simp only [createdTable?, hText]
    rfl
  · rw [rehearsed?, hText]
    rfl

/-- The keyword has no part in what follows it. -/
theorem createValidityTable_toList (header : Header) : ∃ rest, ∀ {keyword start : String},
    keyword ++ " " = start → (Statement.createValidityTable keyword header).toList =
      start.toList ++ (header.validityTable.toList ++ ' ' :: rest) := by
  refine ⟨'(' :: ((",".intercalate (Statement.columns header.epoch.isSome)).toList ++
    ",key TIMESTART (TIMESTART), key TIMEEND (TIMEEND));".toList), ?_⟩
  rintro keyword _ rfl
  simp only [Statement.createValidityTable, String.toList_append, List.append_assoc]
  rfl

theorem createValidityTable_texts {header : Header} (h : IsName header.table) :
    let sql := Statement.createValidityTable "CREATE TABLE" header
    described? sql = none ∧ createdTable? sql = some header.validityTable ∧
      rehearsed? sql = some (Statement.createValidityTable "CREATE TEMPORARY TABLE" header) := by
  intro sql
  obtain ⟨rest, hTexts⟩ := createValidityTable_toList header
  let body := header.validityTable.toList ++ ' ' :: rest
  have hText : sql.toList = "CREATE TABLE ".toList ++ body := hTexts rfl
  have hTable : readTable body = (header.validityTable, ' ' :: rest) :=
    readTable_name (isName_validityTable h) rfl
  refine ⟨?_, ?_, ?_⟩
  · rw [described?, hText]
    rfl
  · have hBlank : body.contains ' ' = true := by simp [body]
    have hStart (rest : List Char) :
        "CREATE TABLE ".toList.isPrefixOf ("CREATE TABLE ".toList ++ rest) = true := rfl
    simp only [createdTable?, hText, hStart, List.drop_left, hBlank, Bool.and_self, if_true]
    exact congrArg (some ∘ Prod.fst) hTable
  · have hNeither (rest : List Char) :
        ((describe "").toList.isPrefixOf ("CREATE TABLE ".toList ++ rest) ||
          "DELETE FROM ".toList.isPrefixOf ("CREATE TABLE ".toList ++ rest)) = false := rfl
    have hTemporary : (Statement.createValidityTable "CREATE TEMPORARY TABLE" header).toList =
        "CREATE TEMPORARY TABLE ".toList ++ body := hTexts rfl
    have hPrinted : "CREATE TEMPORARY TABLE " ++ String.ofList body =
        Statement.createValidityTable "CREATE TEMPORARY TABLE" header := by
      apply String.toList_injective
      rw [hTemporary]
      exact String.toList_append.trans (congrArg _ String.toList_ofList)
    simp only [rehearsed?, hText, hNeither, Bool.false_eq_true, if_false, dropMarker?_append,
      hPrinted]

/-- The record of a rehearsal says of the tables that headers name what the catalogue says. -/
structure Keeps (named : String → Prop) (counters : SequenceCounters) (catalogue : Catalogue) :
    Prop where
  tables : ∀ table, named table → catalogue.known table = true
  created : ∀ table, named table →
    counters.isCreated (validityTable table) = catalogue.known (validityTable table)
  counted : ∀ table, named table →
    counters.peek (validityTable table) = UInt32.ofNat (catalogue.given table + 1)

namespace Keeps

variable {named : String → Prop} {counters : SequenceCounters} {catalogue : Catalogue}

theorem create (h : Keeps named counters catalogue) (table : String) :
    Keeps named (counters.markCreated table)
      { catalogue with known := fun name => name = table || catalogue.known name } where
  tables other hOther := by simp [h.tables other hOther]
  created other hOther := by
    have hCreated := h.created other hOther
    simp only [SequenceCounters.isCreated] at hCreated
    simp [SequenceCounters.isCreated, SequenceCounters.markCreated, hCreated]
  counted other hOther := h.counted other hOther

theorem count (h : Keeps named counters catalogue) {table : String} (hTable : named table) :
    (counters.allocate table).1 = UInt32.ofNat (catalogue.given table + 1) ∧
      Keeps named (counters.allocate table).2 (catalogue.count table) := by
  have hCounted : counters.next (validityTable table) = UInt32.ofNat (catalogue.given table + 1) :=
    h.counted table hTable
  refine ⟨hCounted, h.tables, h.created, fun other hOther => ?_⟩
  by_cases hSame : other = table
  · subst hSame
    simp [SequenceCounters.peek, SequenceCounters.allocate, SequenceCounters.take,
      Catalogue.count, hCounted]
  · have hNames : validityTable other ≠ validityTable table := by
      simpa [validityTable] using hSame
    have hOtherCounted := h.counted other hOther
    simp only [SequenceCounters.peek] at hOtherCounted
    simp [SequenceCounters.peek, SequenceCounters.allocate, SequenceCounters.take,
      Catalogue.count, hSame, hNames, hOtherCounted]

end Keeps

/-- A rehearsal and a durable run are in step. -/
structure Rehearses (catalogue : σ → Catalogue) (named : String → Prop)
    (session : Session (Recorded τ)) (other : Session (Recorded σ)) : Prop where
  keeps : Keeps named session.counters (catalogue other.world.world)
  printed : (statements other.world.calls).filterMap rehearsed? = statements session.world.calls

namespace Rehearses

variable {catalogue : σ → Catalogue} {named : String → Prop} {session : Session (Recorded τ)}
  {other : Session (Recorded σ)}

theorem printed_statement (h : Rehearses catalogue named session other) {sql print : String}
    (hPrinted : rehearsed? sql = some print) (answer shown : Except UpdateError Reply) (after : σ)
    (world : τ) :
    (statements (other.world.add (.execute sql answer) after).calls).filterMap rehearsed? =
      statements (session.world.add (.execute print shown) world).calls := by
  have hBefore := h.printed
  simp only [statements] at hBefore
  simp [Recorded.add, statements, hPrinted, hBefore]

theorem printed_nothing (h : Rehearses catalogue named session other) {call : Call}
    (hCall : (statements [call]).filterMap rehearsed? = []) (after : σ) :
    (statements (other.world.add call after).calls).filterMap rehearsed? =
      statements session.world.calls := by
  simp only [Recorded.add, statements, List.filterMap_append] at hCall ⊢
  rw [hCall, List.append_nil]
  exact h.printed

/-- A step of the durable run that changes no table and of which nothing is printed. -/
theorem unprinted {last : Session (Recorded σ)} (h : Rehearses catalogue named session other)
    {call : Call} {after : σ} (hWorld : last.world = other.world.add call after)
    (hCall : (statements [call]).filterMap rehearsed? = [])
    (hCatalogue : catalogue after = catalogue other.world.world) :
    Rehearses catalogue named session last where
  keeps := by simpa only [hWorld, Recorded.add, hCatalogue] using h.keeps
  printed := by
    rw [hWorld]
    exact h.printed_nothing hCall after

end Rehearses

section Steps

variable {backend : Backend τ} {print : String → τ → τ} {durable : Backend σ}
  {catalogue : σ → Catalogue} {date : String} {named : String → Prop}

theorem rehearsing_query (sql : String) (session : Session (Recorded τ)) :
    (backend.rehearsing print).recorded.query sql session = (.ok [sql], { session with
      world := session.world.add (.execute sql (.ok { lines := [sql] }))
        (print (sql ++ "\n") session.world.world)
      results := [sql]
      executed := session.executed + 1 }) := by
  refine Backend.recorded_query_answered rfl ?_
  rintro reply hReply
  cases hReply
  rfl

theorem accepting_query (hAccepting : Accepting durable.services catalogue date) {sql : String}
    (hDescribed : described? sql = none) (other : Session (Recorded σ)) :
    ∃ reply after, durable.recorded.query sql other = (.ok reply.lines, { other with
        world := other.world.add (.execute sql (.ok reply)) after
        results := reply.lines
        executed := other.executed + 1 }) ∧
      catalogue after = (catalogue other.world.world).executed sql := by
  rcases hAnswer : durable.services.execute sql other.world.world with ⟨answer, after⟩
  obtain ⟨hCatalogue, reply, rfl, hSucceeded⟩ := hAccepting.accepted hDescribed hAnswer
  refine ⟨reply, after, ?_, hCatalogue⟩
  rw [Backend.recorded_query_answered hAnswer]
  · simp only [Session.answered, hSucceeded, if_true]
  · rintro _ ⟨⟩
    exact Reply.succeeded_kept hSucceeded

/-- A statement that leaves the tables alone is printed as it is sent. -/
theorem query_rehearses (hAccepting : Accepting durable.services catalogue date) {sql : String}
    (hTexts : described? sql = none ∧ createdTable? sql = none ∧ rehearsed? sql = some sql) :
    Corresponds (Rehearses catalogue named)
      (discard ((backend.rehearsing print).recorded.query sql) : Action (Recorded τ) Unit)
      (discard (durable.recorded.query sql) : Action (Recorded σ) Unit) := by
  obtain ⟨hDescribed, hCreated, hPrinted⟩ := hTexts
  intro session other h
  obtain ⟨reply, after, hQuery, hCatalogue⟩ := accepting_query hAccepting hDescribed other
  have hSame : catalogue after = catalogue other.world.world := by
    rw [hCatalogue, Catalogue.executed, hCreated]
  rw [Action.discard_apply, Action.discard_apply, rehearsing_query, hQuery]
  refine ⟨rfl, ?_, ?_⟩
  · simpa only [Recorded.add, hSame] using h.keeps
  · exact h.printed_statement hPrinted _ _ _ _

/-- Creating a table of validity rows makes it known to both runs. -/
theorem create_rehearses (hMode : durable.mode = .durable)
    (hAccepting : Accepting durable.services catalogue date) {header : Header}
    (hName : IsName header.table) :
    Corresponds (Rehearses catalogue named)
      (do
        (backend.rehearsing print).recorded.noteValidityTable header.validityTable
        discard ((backend.rehearsing print).recorded.query
          (Statement.createValidityTable "CREATE TEMPORARY TABLE" header))
        return true : Action (Recorded τ) Bool)
      (do
        durable.recorded.noteValidityTable header.validityTable
        discard (durable.recorded.query (Statement.createValidityTable "CREATE TABLE" header))
        return true : Action (Recorded σ) Bool) := by
  obtain ⟨hDescribed, hCreated, hPrinted⟩ := createValidityTable_texts hName
  intro session other h
  obtain ⟨reply, after, hQuery, hCatalogue⟩ := accepting_query hAccepting hDescribed other
  rw [Catalogue.executed, hCreated] at hCatalogue
  -- The rehearsal marks the table in its record, the durable run leaves that to the store.
  have hNote (name : String) : (backend.rehearsing print).recorded.noteValidityTable name session =
      (.ok (), { session with counters := session.counters.markCreated name }) := rfl
  have hNothing (name : String) :
      durable.recorded.noteValidityTable name other = (.ok (), other) := by
    simp only [Backend.noteValidityTable, Backend.recorded_mode, hMode]
    rfl
  simp only [Action.bind_apply, Action.discard_apply, hNote, hNothing, rehearsing_query, hQuery,
    Except.map, Action.pure_apply]
  refine ⟨trivial, ?_, ?_⟩
  · simpa only [Recorded.add, hCatalogue] using h.keeps.create header.validityTable
  · exact h.printed_statement hPrinted _ _ _ _

/-- A probe tells of the table, and nothing of it is printed. -/
theorem accepting_tableExists (hAccepting : Accepting durable.services catalogue date)
    (table : String) {session : Session (Recorded τ)} {other : Session (Recorded σ)}
    (h : Rehearses catalogue named session other) :
    ∃ last, durable.recorded.tableExists table other =
        (.ok ((catalogue other.world.world).known table), last) ∧
      Rehearses catalogue named session last := by
  rcases hAnswer : durable.services.execute (describe table) other.world.world with ⟨answer, after⟩
  obtain ⟨hCatalogue, reply, rfl, hKept, hKnown⟩ := hAccepting.described hAnswer
  have hQuery := Backend.recorded_query_answered hAnswer (by rintro _ ⟨⟩; exact hKept)
  have hUnprinted :
      (statements [.execute (describe table) (.ok reply)]).filterMap rehearsed? = [] := by
    simp [statements, rehearsed?_describe]
  unfold Backend.tableExists
  rw [Backend.recorded_probe, hAccepting.probe]
  simp only [hQuery, Session.answered, hKnown]
  cases (catalogue other.world.world).known table <;>
    exact ⟨_, rfl, h.unprinted rfl hUnprinted hCatalogue⟩

theorem tableExists_rehearses (hAccepting : Accepting durable.services catalogue date)
    {table : String} (hTable : named table) :
    Corresponds (Rehearses catalogue named)
      ((backend.rehearsing print).recorded.tableExists table)
      (durable.recorded.tableExists table) := by
  intro session other h
  obtain ⟨last, hExists, hLast⟩ := accepting_tableExists hAccepting table h
  rw [hExists, h.keeps.tables table hTable]
  exact ⟨rfl, hLast⟩

theorem ensureValidityTable_rehearses (hMode : durable.mode = .durable)
    (hAccepting : Accepting durable.services catalogue date) {header : Header}
    (hName : IsName header.table) (hTable : named header.table) :
    Corresponds (Rehearses catalogue named)
      (Block.ensureValidityTable (backend.rehearsing print).recorded header)
      (Block.ensureValidityTable durable.recorded header) := by
  have hMissing : Corresponds (Rehearses catalogue named)
      ((backend.rehearsing print).recorded.validityTableMissing header.validityTable)
      (durable.recorded.validityTableMissing header.validityTable) := by
    intro session other h
    obtain ⟨last, hExists, hLast⟩ := accepting_tableExists hAccepting header.validityTable h
    have hRecord : (backend.rehearsing print).recorded.validityTableMissing header.validityTable
        session = (.ok (!session.counters.isCreated header.validityTable), session) := rfl
    have hCreated : session.counters.isCreated header.validityTable =
        (catalogue other.world.world).known header.validityTable :=
      h.keeps.created header.table hTable
    rw [hRecord, hCreated]
    simp only [Backend.validityTableMissing, Backend.recorded_mode, hMode, Action.bind_apply,
      hExists]
    exact ⟨rfl, hLast⟩
  have hKeyword : durable.recorded.createKeyword = "CREATE TABLE" := by
    simp only [Backend.createKeyword, Backend.recorded_mode, hMode]
  unfold Block.ensureValidityTable
  rw [hKeyword]
  refine hMissing.step fun missing => ?_
  cases missing with
  | false => exact .ok false
  | true => exact create_rehearses hMode hAccepting hName

/-- The durable run deletes what is left under a number, and nothing of it is printed. -/
theorem accepting_removeSeqno (hMode : durable.mode = .durable)
    (hAccepting : Accepting durable.services catalogue date) (table : String) (seqno : UInt32)
    {session : Session (Recorded τ)} {other : Session (Recorded σ)}
    (h : Rehearses catalogue named session other) :
    ∃ last, durable.recorded.removeSeqno table seqno other = (.ok (), last) ∧
      Rehearses catalogue named session last := by
  have hDelete (table : String) {other : Session (Recorded σ)}
      (h : Rehearses catalogue named session other) :
      ∃ last, durable.recorded.queryLeniently (Statement.deleteFrom table seqno) other =
          (.ok (), last) ∧ Rehearses catalogue named session last := by
    obtain ⟨hDescribed, hCreated, hUnprinted⟩ := deleteFrom_texts table seqno
    obtain ⟨reply, after, hQuery, hCatalogue⟩ := accepting_query hAccepting hDescribed other
    rw [Catalogue.executed, hCreated] at hCatalogue
    simp only [Backend.queryLeniently, Action.tryCatch_apply, Action.discard_apply, hQuery,
      Except.map]
    exact ⟨_, rfl, h.unprinted rfl (by simp [statements, hUnprinted]) hCatalogue⟩
  obtain ⟨middle, hRows, hMiddle⟩ := hDelete table h
  obtain ⟨last, hValidity, hLast⟩ := hDelete (validityTable table) hMiddle
  refine ⟨last, ?_, hLast⟩
  simp only [Backend.removeSeqno, Backend.recorded_mode, hMode, Statement.deleteSeqno, List.forM,
    Action.bind_apply, hRows, hValidity]
  rfl

theorem acquireSeqno_rehearses (hMode : durable.mode = .durable)
    (hAccepting : Accepting durable.services catalogue date) {table : String} (scope : Scope)
    (hTable : named table) :
    Corresponds (Rehearses catalogue named)
      ((backend.rehearsing print).recorded.acquireSeqno table scope)
      (durable.recorded.acquireSeqno table scope) := by
  intro session other h
  rcases hAnswer : durable.services.allocate table scope other.world.world with ⟨answer, after⟩
  obtain ⟨rfl, hCatalogue⟩ := hAccepting.allocate hAnswer
  obtain ⟨hNumber, hKeeps⟩ := h.keeps.count hTable
  let seqno := UInt32.ofNat ((catalogue other.world.world).given table + 1)
  have hRecord : (backend.rehearsing print).recorded.acquireSeqno table scope session =
      (.ok seqno, { session with counters := (session.counters.allocate table).2 }) :=
    Prod.ext (congrArg Except.ok hNumber) rfl
  have hAllocate : durable.recorded.allocate table scope other =
      (.ok seqno, { other with
        world := other.world.add (.allocate table scope (.ok seqno)) after }) :=
    Backend.recorded_allocate hAnswer
  have hNumbered : Rehearses catalogue named
      { session with counters := (session.counters.allocate table).2 }
      { other with world := other.world.add (.allocate table scope (.ok seqno)) after } := by
    refine ⟨?_, ?_⟩
    · simpa only [Recorded.add, hCatalogue] using hKeeps
    · exact h.printed_nothing rfl after
  -- Only the durable run clears what a number may have left behind.
  obtain ⟨last, hRemove, hLast⟩ := accepting_removeSeqno hMode hAccepting table seqno hNumbered
  rw [hRecord]
  simp only [Backend.acquireSeqno, Backend.recorded_mode, hMode, Action.bind_apply, hAllocate,
    hRemove]
  exact ⟨rfl, hLast⟩

theorem applyReady_rehearses (hMode : durable.mode = .durable)
    (hAccepting : Accepting durable.services catalogue date) (settings : BlockSettings)
    (inserted : String) {header : Header} (rows : Rows) (hName : IsName header.table)
    (hTable : named header.table) :
    Corresponds (Rehearses catalogue named)
      (Block.applyReady (backend.rehearsing print).recorded settings inserted header rows)
      (Block.applyReady durable.recorded settings inserted header rows) := by
  refine Block.applyReady_corresponds
    (ensureValidityTable_rehearses hMode hAccepting hName hTable)
    (acquireSeqno_rehearses hMode hAccepting settings.scope hTable) fun seqno => ?_
  refine Block.store_corresponds (fun sql hMem => ?_) ?_
  · obtain ⟨table, values, rfl⟩ : ∃ table values, sql = Statement.insertValues table values := by
      obtain hRow | hValidity := List.mem_append.mp hMem
      · obtain ⟨values, -, rfl⟩ := List.mem_map.mp hRow
        exact ⟨_, values, rfl⟩
      · exact ⟨_, _, List.mem_singleton.mp hValidity⟩
    exact query_rehearses hAccepting (insertValues_texts table values)
  · intro session other h
    obtain ⟨last, hRemove, hLast⟩ :=
      accepting_removeSeqno hMode hAccepting header.table seqno h
    rw [hRemove]
    exact ⟨rfl, hLast⟩

theorem now_rehearses (hAccepting : Accepting durable.services catalogue date)
    (hDate : ∀ world, (backend.services.now world).1 = date) :
    Corresponds (Rehearses catalogue named) (backend.rehearsing print).recorded.now
      durable.recorded.now := by
  intro session other h
  rcases hShown : durable.services.now other.world.world with ⟨shown, after⟩
  obtain ⟨rfl, hCatalogue⟩ := hAccepting.now hShown
  have hDay : ((backend.rehearsing print).recorded.now session).1 = shown :=
    hDate session.world.world
  have hStatements : statements ((backend.rehearsing print).recorded.now session).2.world.calls =
      statements session.world.calls := by
    simp [statements, Backend.now, Backend.recorded, Services.recorded, Recorded.add]
  rw [Backend.recorded_now hShown]
  refine ⟨hDay.symm, ?_, ?_⟩
  · change Keeps named session.counters (catalogue after)
    rw [hCatalogue]
    exact h.keeps
  · exact (h.printed_nothing rfl after).trans hStatements.symm

end Steps

namespace UpdateFile

def Named (lines : List SourceLine) (table : String) : Prop :=
  ∃ line header, .header line ∈ items lines ∧ Header.parse line = .ok header ∧
    header.table = table

variable {backend : Backend τ} {print : String → τ → τ} {durable : Backend σ}
  {catalogue : σ → Catalogue} {date : String}

theorem rehearses_aligned (hMode : durable.mode = .durable)
    (hAccepting : Accepting durable.services catalogue date)
    (hDate : ∀ world, (backend.services.now world).1 = date) (settings : BlockSettings)
    {lines : List SourceLine} (hStatements : ∀ text, .statement text ∉ items lines) :
    Aligned (Rehearses catalogue (Named lines)) (backend.rehearsing print).recorded
      durable.recorded settings
      (fun block => ∀ header rows, block.stage = .ready header rows →
        IsName header.table ∧ Named lines header.table) (items lines) where
  apply block hBlock := (now_rehearses hAccepting hDate).bind fun inserted =>
    Block.applyAt_corresponds fun header rows hStage =>
      applyReady_rehearses hMode hAccepting block.settings inserted rows
        (hBlock header rows hStage).1 (hBlock header rows hStage).2
  addRow {block next line} hBlock hAdded header rows hStage := by
    obtain ⟨settings, stage⟩ := block
    cases stage with
    | ready _ before =>
      cases hAdded
      cases hStage
      exact hBlock header before rfl
    | refused _ | failed _ _ _ =>
      cases hAdded
      cases hStage
    | applied _ _ _ => cases hAdded
  query text hMem := absurd hMem (hStatements text)
  begin line hMem := Block.begin_corresponds fun header hParse =>
    tableExists_rehearses hAccepting ⟨line, header, hMem, hParse, rfl⟩
  begun {line session block after} hMem hBegin header rows hStage := by
    obtain ⟨reason, hRefused⟩ | ⟨_, hParse, -, hReady⟩ := Block.begin_stage hBegin
    · rw [hRefused] at hStage
      cases hStage
    · rw [hReady] at hStage
      cases hStage
      exact ⟨Header.parse_isName hParse, line, header, hMem, hParse, rfl⟩

/-- A rehearsal of a file without raw statements comes to what the durable run comes to, and prints
what that sends, but for probes and deletions and with temporary tables. The tables that headers
name exist at first, and their tables of validity rows do not, so that none of these is named. -/
theorem apply_rehearsed (print : String → τ → τ) (hMode : durable.mode = .durable)
    (hAccepting : Accepting durable.services catalogue date)
    (hDate : ∀ world, (backend.services.now world).1 = date) (settings : BlockSettings)
    {lines : List SourceLine} (hStatements : ∀ text, .statement text ∉ items lines)
    {session : Session τ} (hFresh : session.counters = .empty) {other : Session σ}
    (hTables : ∀ table, Named lines table → (catalogue other.world).known table = true ∧
      (catalogue other.world).known (validityTable table) = false ∧
      (catalogue other.world).given table = 0) :
    (UpdateFile.apply (backend.rehearsing print) settings lines session).1 =
        (UpdateFile.apply durable settings lines other).1 ∧
      (statements (calls durable settings lines other)).filterMap rehearsed? =
        statements (calls (backend.rehearsing print) settings lines session) := by
  have hStart : Rehearses catalogue (Named lines) (session.recording []) (other.recording []) := by
    refine ⟨⟨fun table hTable => (hTables table hTable).1, fun table hTable => ?_,
      fun table hTable => ?_⟩, rfl⟩
    · obtain ⟨-, hMissing, -⟩ := hTables table hTable
      simpa [Session.recording, hFresh, SequenceCounters.empty, SequenceCounters.isCreated] using
        hMissing
    · obtain ⟨-, -, hNone⟩ := hTables table hTable
      simp [Session.recording, hFresh, SequenceCounters.empty, SequenceCounters.peek, hNone]
  obtain ⟨hResult, hAfter⟩ :=
    (rehearses_aligned hMode hAccepting hDate settings hStatements).file _ _ hStart
  refine ⟨?_, hAfter.printed⟩
  have hPlain := apply_mirrors (backend.rehearsing print) settings lines (session.recording [])
  have hDurable := apply_mirrors durable settings lines (other.recording [])
  exact (congrArg Prod.fst hPlain).trans (hResult.symm.trans (congrArg Prod.fst hDurable).symm)

end UpdateFile

/-- Services that are no more than a catalogue. -/
def Catalogue.services : Services Catalogue where
  execute sql catalogue :=
    match described? sql with
    | some table => (.ok { exitCode := if catalogue.known table then 0 else 1 }, catalogue)
    | none => (.ok {}, catalogue.executed sql)
  probe table _ := some (describe table)
  allocate table _ catalogue :=
    (.ok (UInt32.ofNat (catalogue.given table + 1)), catalogue.count table)
  now catalogue := ("2020-01-01 00:00:00", catalogue)

theorem described?_describe (table : String) : described? (describe table) = some table := by
  have hText : (describe table).toList = (describe "").toList ++ table.toList :=
    String.toList_append
  have hStart (rest : List Char) :
      (describe "").toList.isPrefixOf ((describe "").toList ++ rest) = true := rfl
  simp only [described?, hText, hStart, if_true, List.drop_left, String.ofList_toList]

theorem Catalogue.accepting : Accepting Catalogue.services id "2020-01-01 00:00:00" where
  probe _ _ := rfl
  described {table world answer after} hAnswer := by
    simp only [services, described?_describe] at hAnswer
    cases hAnswer
    refine ⟨rfl, _, rfl, ?_, ?_⟩
    · simp [Reply.connectionLost]
    · cases hKnown : world.known table <;> simp [Reply.succeeded, hKnown]
  accepted {sql world answer after} hDescribed hAnswer := by
    simp only [services, hDescribed] at hAnswer
    cases hAnswer
    exact ⟨rfl, _, rfl, rfl⟩
  allocate hAnswer := by
    cases hAnswer
    exact ⟨rfl, rfl⟩
  now hAnswer := by
    cases hAnswer
    exact ⟨rfl, rfl⟩

namespace UpdateFile

/-- A file with two blocks of one table. -/
def repeatedLines : List SourceLine :=
  [commentedHeader, "1,2", commentedHeader, "3,4"].map .ok

theorem apply_rehearsed_repeated :
    let durable : Backend Catalogue := ⟨Catalogue.services, 3, .durable⟩
    let rehearsal := durable.rehearsing fun _ catalogue => catalogue
    let session : Session Catalogue :=
      { world := { known := (· = "DEMO"), given := fun _ => 0 } }
    let settings : BlockSettings := { scope := .locally }
    (∃ report, (UpdateFile.apply rehearsal settings repeatedLines session).1 = .ok report) ∧
      (UpdateFile.apply rehearsal settings repeatedLines session).1 =
        (UpdateFile.apply durable settings repeatedLines session).1 ∧
      (statements (calls durable settings repeatedLines session)).filterMap rehearsed? =
        statements (calls rehearsal settings repeatedLines session) := by
  intro durable rehearsal session settings
  have hItems : items repeatedLines =
      [.header commentedHeader, .row 2 "1,2", .header commentedHeader, .row 4 "3,4"] := by
    decide +kernel
  have hParse : Header.parse commentedHeader = .ok Block.demoHeader := by decide +kernel
  have hOk : (UpdateFile.apply rehearsal settings repeatedLines session).1.toOption.isSome := by
    decide +kernel
  refine ⟨?_, apply_rehearsed _ rfl Catalogue.accepting (fun _ => rfl) settings ?_ rfl ?_⟩
  · cases hResult : (UpdateFile.apply rehearsal settings repeatedLines session).1 with
    | error e =>
      rw [hResult] at hOk
      cases hOk
    | ok report => exact ⟨report, rfl⟩
  · simp [hItems]
  · rintro table ⟨line, header, hMem, hHeader, rfl⟩
    obtain rfl : line = commentedHeader := by simpa [hItems] using hMem
    obtain rfl := Except.ok.inj (hParse.symm.trans hHeader)
    exact ⟨by decide +kernel, by decide +kernel, rfl⟩

end UpdateFile

end ValidityTables
