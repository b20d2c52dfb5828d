import ValidityTables.Proofs.StoredRows
import ValidityTables.Proofs.Trials

/-! # The numbers of a rehearsal

A rehearsal counts for itself. What a trial does is settled by the trials before it: whether the
table of validity rows has to be created, by whether there was one for the same table, and which
number it gets, by how many of those got one. So each table is created at most once, before any row
is inserted, and its numbers are 1, 2, 3 and so on.
-/

namespace ValidityTables

variable {σ : Type}

/-- Making sure of a table in a rehearsal, which issues the statement only for the first time. -/
inductive Opens (create : String) : Bool → List Event → Prop
  | known : Opens create false []
  | created (lines : List String) : Opens create true [.statement create (.ok lines)]

/-- One application in a rehearsal: `first` tells whether it is the first for its table, and
`number` is the number that comes next for the table. -/
inductive Tries (keyword : String) (settings : BlockSettings) (inserted : String) (header : Header)
    (rows : Rows) (first : Bool) (number : UInt32) : List Event → Option UInt32 → Prop
  | refused (e : UpdateError) : first = true →
      Tries keyword settings inserted header rows first number
        [.statement (Statement.createValidityTable keyword header) (.error e)] none
  | numbered {opening storing : List Event} {result : Except UpdateError Unit} :
      Opens (Statement.createValidityTable keyword header) first opening →
      Stores .ephemeral header.table number
        (storingStatements settings inserted header rows number) storing result →
      Tries keyword settings inserted header rows first number (opening ++ storing) (some number)

namespace SequenceCounters

/-- The counters after an application for a table of validity rows. -/
def tried (counters : SequenceCounters) (name : String) : Option UInt32 → SequenceCounters
  | none => counters.markCreated name
  | some _ => ((counters.markCreated name).take name).2

theorem markCreated_created {counters : SequenceCounters} {name : String}
    (h : counters.isCreated name = true) : counters.markCreated name = counters := by
  obtain ⟨next, created⟩ := counters
  simp only [markCreated, mk.injEq, true_and]
  funext other
  by_cases hName : other = name
  · subst hName
    simpa [isCreated] using h.symm
  · simp [hName]

theorem tried_isCreated (counters : SequenceCounters) (name other : String)
    (seqno? : Option UInt32) :
    (counters.tried name seqno?).isCreated other =
      (decide (other = name) || counters.isCreated other) := by
  cases seqno? <;> rfl

theorem tried_peek (counters : SequenceCounters) (name other : String) (seqno? : Option UInt32) :
    (counters.tried name seqno?).peek other =
      if other = name ∧ seqno?.isSome then counters.peek name + 1 else counters.peek other := by
  cases seqno? with
  | none => simp [tried, markCreated, peek]
  | some seqno => simp [tried, markCreated, take, peek]

end SequenceCounters

section Ephemeral

variable {backend : Backend σ} {session after : Session σ}

theorem Block.ensureValidityTable_ephemeral (hMode : backend.mode = .ephemeral) {header : Header}
    {created : Except UpdateError Bool}
    (h : ensureValidityTable backend header session = (created, after)) :
    ∃ opening, backend.Traces session.world opening after.world ∧
      after.counters = session.counters.markCreated header.validityTable ∧
      match created with
      | .ok _ => Opens (Statement.createValidityTable backend.createKeyword header)
          (!session.counters.isCreated header.validityTable) opening
      | .error e => session.counters.isCreated header.validityTable = false ∧
          opening = [.statement (Statement.createValidityTable backend.createKeyword header)
            (.error e)] := by
  have hMissing : backend.validityTableMissing header.validityTable session =
      (.ok (!session.counters.isCreated header.validityTable), session) := by
    rw [Backend.validityTableMissing, hMode]
    rfl
  rw [ensureValidityTable, Action.bind_apply, hMissing] at h
  cases hCreated : session.counters.isCreated header.validityTable with
  | true =>
    simp only [hCreated] at h
    cases h
    exact ⟨[], .nil _, (SequenceCounters.markCreated_created hCreated).symm, .known⟩
  | false =>
    have hNote : backend.noteValidityTable header.validityTable session = (.ok (),
        { session with counters := session.counters.markCreated header.validityTable }) := by
      rw [Backend.noteValidityTable, hMode]
      rfl
    simp only [hCreated, Bool.not_false, if_true, Action.bind_apply, hNote,
      Action.discard_apply] at h
    rcases hQuery : backend.query (Statement.createValidityTable backend.createKeyword header)
      { session with counters := session.counters.markCreated header.validityTable } with
      ⟨outcome, last⟩
    have hTraces := backend.query_traces hQuery
    have hCounters := congrArg (·.2.counters) hQuery
    simp only [Backend.query_counters] at hCounters
    rw [hQuery] at h
    cases outcome with
    | error e => cases h; exact ⟨_, hTraces, hCounters.symm, rfl, rfl⟩
    | ok lines => cases h; exact ⟨_, hTraces, hCounters.symm, .created lines⟩

theorem Block.runAll_counters (backend : Backend σ) (statements : List String)
    (session : Session σ) :
    (runAll backend statements session).2.counters = session.counters := by
  induction statements generalizing session with
  | nil => rfl
  | cons sql rest ih =>
    have hQuery := backend.query_counters sql session
    rw [runAll, Action.bind_apply, Action.discard_apply]
    rcases hRan : backend.query sql session with ⟨_ | _, middle⟩ <;> rw [hRan] at hQuery
    · exact hQuery
    · exact (ih middle).trans hQuery

theorem Block.store_counters (hMode : backend.mode = .ephemeral) (table : String) (seqno : UInt32)
    (statements : List String) (session : Session σ) :
    (store backend table seqno statements session).2.counters = session.counters := by
  have hRun := Block.runAll_counters backend statements session
  rw [store, Action.tryCatch_apply]
  rcases hRan : runAll backend statements session with ⟨e | _, middle⟩ <;> rw [hRan] at hRun
  · simp only [Action.bind_apply, Backend.removeSeqno, hMode]
    exact hRun
  · exact hRun

/-- What an application in a rehearsal does, and what it makes of the counters. -/
theorem Block.applyReady_ephemeral (hMode : backend.mode = .ephemeral) {settings : BlockSettings}
    {inserted : String} {header : Header} {rows : Rows}
    {outcome : Except UpdateError BlockReport × Stage}
    (h : applyReady backend settings inserted header rows session = (outcome, after)) :
    ∃ events, backend.Traces session.world events after.world ∧
      Tries backend.createKeyword settings inserted header rows
        (!session.counters.isCreated header.validityTable)
        (session.counters.peek header.validityTable) events outcome.2.seqno? ∧
      after.counters = session.counters.tried header.validityTable outcome.2.seqno? := by
  rw [applyReady, Action.state_bind_apply] at h
  rcases hEnsure : ensureValidityTable backend header session with ⟨created, opened⟩
  obtain ⟨opening, hOpening, hMarked, hCreated⟩ := ensureValidityTable_ephemeral hMode hEnsure
  simp only [ExceptT.run, hEnsure] at h
  cases created with
  | error e =>
    obtain ⟨hFirst, rfl⟩ := hCreated
    cases h
    exact ⟨_, hOpening, .refused e (by simp [hFirst]), hMarked⟩
  | ok created =>
    have hAcquire : backend.acquireSeqno header.table settings.scope opened =
        (.ok (session.counters.peek header.validityTable),
          { opened with counters := ((session.counters.markCreated header.validityTable).take
              header.validityTable).2 }) := by
      rw [Backend.acquireSeqno, hMode, ← hMarked]
      change (Except.ok (opened.counters.peek header.validityTable), _) = _
      rw [hMarked]
      rfl
    simp only [Action.state_bind_apply, hAcquire] at h
    generalize hNumbered : { opened with counters := ((session.counters.markCreated
      header.validityTable).take header.validityTable).2 } = numbered at h
    rcases hStore : store backend header.table (session.counters.peek header.validityTable)
      (storingStatements settings inserted header rows
        (session.counters.peek header.validityTable)) numbered with ⟨stored, last⟩
    obtain ⟨storing, hStores, hStoring⟩ := store_traces hStore
    have hKept := store_counters hMode header.table (session.counters.peek header.validityTable)
      (storingStatements settings inserted header rows
        (session.counters.peek header.validityTable)) numbered
    rw [hStore] at hKept
    rw [hMode] at hStores
    subst hNumbered
    have hAll := hOpening.append hStoring
    rw [storingStatements] at hStore
    rw [hStore] at h
    cases stored <;> cases h <;> exact ⟨_, hAll, .numbered hCreated hStores, hKept⟩

end Ephemeral

namespace Trial

variable (backend : Backend σ) (trial : Trial σ)

theorem tries (hMode : backend.mode = .ephemeral) :
    (∃ events, Realizes backend.attempts events (trial.calls backend) ∧
      Tries backend.createKeyword trial.settings trial.inserted trial.header trial.rows
        (!trial.session.counters.isCreated trial.header.validityTable)
        (trial.session.counters.peek trial.header.validityTable) events (trial.seqno? backend)) ∧
    (trial.after backend).counters =
      trial.session.counters.tried trial.header.validityTable (trial.seqno? backend) := by
  have hMirrors := Block.applyReady_mirrors backend trial.settings trial.inserted trial.header
    trial.rows (trial.session.recording [])
  rcases hRecorded : Block.applyReady backend.recorded trial.settings trial.inserted trial.header
    trial.rows (trial.session.recording []) with ⟨outcome, after⟩
  obtain ⟨events, ⟨calls, hPath, hRealizes⟩, hTries, hCounters⟩ :=
    Block.applyReady_ephemeral (show backend.recorded.mode = .ephemeral from hMode) hRecorded
  rw [hRecorded, Session.forget_recording] at hMirrors
  have hEnded : trial.ended backend = (outcome, after.forget) := hMirrors
  have hCalls : trial.calls backend = calls := by
    rw [Trial.calls, hRecorded]
    exact hPath.recorded
  rw [seqno?, Trial.after, hEnded, hCalls]
  exact ⟨⟨events, hRealizes, hTries⟩, hCounters⟩

/-- A number that is acquired is the next one. -/
theorem seqno_next (hMode : backend.mode = .ephemeral) {seqno : UInt32}
    (h : trial.seqno? backend = some seqno) :
    seqno = trial.session.counters.peek trial.header.validityTable := by
  obtain ⟨⟨events, -, hTries⟩, -⟩ := trial.tries backend hMode
  rw [h] at hTries
  cases hTries
  rfl

/-- The numbers that trials got for a table. -/
def given (trials : List (Trial σ)) (table : String) : List UInt32 :=
  (trials.filter fun trial => trial.header.table = table).filterMap (seqno? backend)

/-- Whether one of the trials was for the table. -/
def triedFor (trials : List (Trial σ)) (table : String) : Bool :=
  trials.any fun trial => trial.header.table = table

end Trial

/-- The counters tell of each table whether there were trials for it and how many numbers they got,
which are the first ones. -/
structure Tally (backend : Backend σ) (trials : List (Trial σ)) (counters : SequenceCounters) :
    Prop where
  created : ∀ table, counters.isCreated (validityTable table) = Trial.triedFor trials table
  next : ∀ table, counters.peek (validityTable table) =
    UInt32.ofNat ((Trial.given backend trials table).length + 1)
  numbers : ∀ table, Trial.given backend trials table =
    (List.range' 1 (Trial.given backend trials table).length).map UInt32.ofNat

namespace Tally

variable {backend : Backend σ}

theorem empty : Tally backend [] .empty where
  created _ := rfl
  next _ := rfl
  numbers _ := rfl

/-- A trial adds to the tally of its own table only. -/
theorem trial {trials : List (Trial σ)} {trial : Trial σ} (hMode : backend.mode = .ephemeral)
    (h : Tally backend trials trial.session.counters) :
    Tally backend (trials ++ [trial]) (trial.after backend).counters := by
  have hSame (table : String) : validityTable table = trial.header.validityTable ↔
      trial.header.table = table := by
    simp [Header.validityTable, validityTable, eq_comm]
  have hGiven (table : String) : Trial.given backend (trials ++ [trial]) table =
      Trial.given backend trials table ++
        if trial.header.table = table then (trial.seqno? backend).toList else [] := by
    simp only [Trial.given, List.filter_append, List.filterMap_append]
    split <;> cases hNumber : trial.seqno? backend <;> simp [*]
  rw [(trial.tries backend hMode).2]
  -- A table other than that of the trial keeps its mark, its number and what it was given.
  refine ⟨fun table => ?_, fun table => ?_, fun table => ?_⟩
  · rw [SequenceCounters.tried_isCreated, h.created table]
    simp [Trial.triedFor, hSame, Bool.or_comm]
  all_goals
    have hNext := h.next table
    have hNumbers := h.numbers table
    rw [hGiven table]
  · rw [SequenceCounters.tried_peek]
    simp only [hSame]
    by_cases hTable : trial.header.table = table
    · subst hTable
      cases trial.seqno? backend with
      | none => simpa [Header.validityTable] using hNext
      | some seqno => simp [Header.validityTable, hNext]
    · simpa [hTable] using hNext
  · split
    · rename_i hTable
      subst hTable
      cases hNumber : trial.seqno? backend with
      | none => simpa using hNumbers
      | some seqno =>
        have hSeqno := trial.seqno_next backend hMode hNumber
        rw [Header.validityTable, hNext] at hSeqno
        rw [Option.toList_some, List.length_append, List.length_singleton, List.range'_concat,
          List.map_append, ← hNumbers, hSeqno]
        simp [Nat.add_comm]
    · simpa using hNumbers

theorem follows {trials later : List (Trial σ)} {counters after : SequenceCounters}
    (hMode : backend.mode = .ephemeral) (h : Tally backend trials counters)
    (hFollows : Follows backend counters later after) :
    Tally backend (trials ++ later) after := by
  induction hFollows generalizing trials with
  | done => simpa using h
  | trial _ ih => simpa using ih (h.trial hMode)

end Tally

section Statements

theorem storingStatements_inserts {settings : BlockSettings} {inserted : String} {header : Header}
    {rows : Rows} {seqno : UInt32} {sql : String}
    (h : sql ∈ storingStatements settings inserted header rows seqno) :
    (∃ values, sql = Statement.insertValues header.table values) ∨
      sql = Statement.insertValidityRow header seqno inserted := by
  obtain hRows | hValidity := List.mem_append.mp h
  · obtain ⟨values, -, rfl⟩ := List.mem_map.mp hRows
    exact .inl ⟨values, rfl⟩
  · exact .inr (List.mem_singleton.mp hValidity)

theorem Stores.inserts {table : String} {seqno : UInt32} {statements : List String}
    {events : List Event} {result : Except UpdateError Unit} {event : Event}
    (h : Stores .ephemeral table seqno statements events result) (hMem : event ∈ events) :
    ∃ sql ∈ statements, ∃ outcome, event = .statement sql outcome := by
  cases h with
  | all hDone =>
    obtain ⟨sql, hSql, lines, rfl⟩ := hDone.mem hMem
    exact ⟨sql, hSql, _, rfl⟩
  | failed hStatements hDone hRemoves =>
    cases hRemoves
    rw [hStatements]
    obtain hBefore | hLast := List.mem_append.mp hMem
    · obtain ⟨sql, hSql, lines, rfl⟩ := hDone.mem hBefore
      exact ⟨sql, List.mem_append_left _ hSql, _, rfl⟩
    · obtain rfl := List.mem_singleton.mp hLast
      exact ⟨_, by simp, _, rfl⟩

/-- In a rehearsal an application only creates the table of validity rows, if it is the first for
the table, and inserts. -/
theorem Tries.statements {keyword : String} {settings : BlockSettings} {inserted : String}
    {header : Header} {rows : Rows} {first : Bool} {number : UInt32} {events : List Event}
    {seqno? : Option UInt32}
    (h : Tries keyword settings inserted header rows first number events seqno?) :
    ∀ event ∈ events, ∃ sql outcome, event = .statement sql outcome ∧
      (first = true ∧ sql = Statement.createValidityTable keyword header ∨
        (∃ values, sql = Statement.insertValues header.table values) ∨
        sql = Statement.insertValidityRow header number inserted) := by
  intro event hMem
  cases h with
  | refused e hFirst =>
    obtain rfl := List.mem_singleton.mp hMem
    exact ⟨_, _, rfl, .inl ⟨hFirst, rfl⟩⟩
  | numbered hOpens hStores =>
    obtain hOpening | hStoring := List.mem_append.mp hMem
    · cases hOpens with
      | known => cases hOpening
      | created lines =>
        obtain rfl := List.mem_singleton.mp hOpening
        exact ⟨_, _, rfl, .inl ⟨rfl, rfl⟩⟩
    · obtain ⟨sql, hSql, outcome, rfl⟩ := hStores.inserts hStoring
      exact ⟨sql, outcome, rfl, .inr (storingStatements_inserts hSql)⟩

end Statements

namespace Updater

variable {updater : Updater σ} {session : Session σ}

theorem trials_tally (hMode : updater.backend.mode = .ephemeral)
    (hFresh : session.counters = .empty) (blocks : List Block) (operations : List Operation) :
    Tally updater.backend (updater.trials blocks session operations)
      (updater.performAll blocks operations session).2.counters := by
  have hFollows := performAll_follows hMode blocks operations session
  rw [hFresh] at hFollows
  exact Tally.empty.follows hMode hFollows

theorem trials_tally_before (hMode : updater.backend.mode = .ephemeral)
    (hFresh : session.counters = .empty) {blocks : List Block} {operations : List Operation}
    {before rest : List (Trial σ)} {trial : Trial σ}
    (h : updater.trials blocks session operations = before ++ trial :: rest) :
    Tally updater.backend before trial.session.counters := by
  have hFollows := performAll_follows hMode blocks operations session
  rw [hFresh, h] at hFollows
  obtain ⟨middle, hBefore, hRest⟩ := hFollows.split
  cases hRest
  exact Tally.empty.follows hMode hBefore

/-- The first trial for a table begins with creating the table of validity rows. -/
theorem first_creates (hMode : updater.backend.mode = .ephemeral)
    (hFresh : session.counters = .empty) {blocks : List Block} {operations : List Operation}
    {before rest : List (Trial σ)} {trial : Trial σ}
    (h : updater.trials blocks session operations = before ++ trial :: rest)
    (hFirst : Trial.triedFor before trial.header.table = false) :
    let create := Statement.createValidityTable updater.backend.createKeyword trial.header
    ∃ answer later, trial.calls updater.backend = .execute create answer :: later := by
  intro create
  have hTally := trials_tally_before hMode hFresh h
  have hCreated := hTally.created trial.header.table
  rw [hFirst] at hCreated
  obtain ⟨⟨events, hRealizes, hTries⟩, -⟩ := trial.tries updater.backend hMode
  rw [Header.validityTable, hCreated] at hTries
  -- The events of a first trial begin with the creation, whether it was refused or not.
  generalize trial.seqno? updater.backend = seqno? at hTries
  generalize trial.calls updater.backend = calls at hRealizes ⊢
  obtain ⟨outcome, later, rfl⟩ :
      ∃ outcome later, events = .statement create outcome :: later := by
    cases hTries with
    | refused e => exact ⟨_, [], rfl⟩
    | numbered hOpens =>
      cases hOpens
      exact ⟨_, _, rfl⟩
  cases hRealizes with
  | statement hResolves =>
    have hAnswered := hResolves.answered (Nat.le_max_right _ 1)
    obtain ⟨answer, more, rfl⟩ := List.exists_cons_of_ne_nil hAnswered
    exact ⟨answer, _, rfl⟩

/-- In a program over temporary tables, each table is created by the first of its trials only,
before anything is inserted, and its numbers are 1, 2, 3 and so on, one for each trial that got that
far. -/
theorem performAll_numbers (hMode : updater.backend.mode = .ephemeral)
    (hFresh : session.counters = .empty) (blocks : List Block) (operations : List Operation) :
    let backend := updater.backend
    let trials := updater.trials blocks session operations
    let ended := (updater.performAll blocks operations session).2
    (trials.flatMap (Trial.calls backend)).Sublist (updater.calls blocks operations session) ∧
    (∀ table, (Trial.given backend trials table).length < 2 ^ 32 - 1 →
      (Trial.given backend trials table).map UInt32.toNat =
          List.range' 1 (Trial.given backend trials table).length ∧
        (ended.counters.peek (validityTable table)).toNat =
          (Trial.given backend trials table).length + 1) ∧
    ∀ before trial rest, trials = before ++ trial :: rest →
      let first := !Trial.triedFor before trial.header.table
      let number := UInt32.ofNat ((Trial.given backend before trial.header.table).length + 1)
      trial.session.counters.peek trial.header.validityTable = number ∧
      (∃ events, Realizes backend.attempts events (trial.calls backend) ∧
        Tries backend.createKeyword trial.settings trial.inserted trial.header trial.rows first
          number events (trial.seqno? backend)) ∧
      ∀ call ∈ trial.calls backend, ∃ sql answer, call = .execute sql answer ∧
        (first = true ∧
            sql = Statement.createValidityTable backend.createKeyword trial.header ∨
          (∃ values, sql = Statement.insertValues trial.header.table values) ∨
          sql = Statement.insertValidityRow trial.header number trial.inserted) := by
  intro backend trials ended
  refine ⟨trials_calls updater blocks operations session, fun table hFew => ?_,
    fun before trial rest hTrials => ?_⟩
  · have hTally := trials_tally hMode hFresh blocks operations
    have hNext := hTally.next table
    have hNumbers := hTally.numbers table
    change ended.counters.peek _ = UInt32.ofNat ((Trial.given backend trials table).length + 1)
      at hNext
    change Trial.given backend trials table =
      (List.range' 1 (Trial.given backend trials table).length).map UInt32.ofNat at hNumbers
    generalize (Trial.given backend trials table).length = n at hFew hNext hNumbers ⊢
    have hSmall {m : Nat} (h : m < 2 ^ 32) : (UInt32.ofNat m).toNat = m :=
      UInt32.toNat_ofNat_of_lt' h
    constructor
    · rw [hNumbers, List.map_map]
      refine (List.map_congr_left fun m hMem => ?_).trans (List.map_id _)
      have hBound := (List.mem_range'_1.mp hMem).2
      exact hSmall (by omega)
    · rw [hNext]
      exact hSmall (by omega)
  · have hTally := trials_tally_before hMode hFresh hTrials
    obtain ⟨⟨events, hRealizes, hTries⟩, -⟩ := trial.tries backend hMode
    have hCreated := hTally.created trial.header.table
    have hNext := hTally.next trial.header.table
    rw [Header.validityTable, hCreated, hNext] at hTries
    exact ⟨hNext, ⟨events, hRealizes, hTries⟩, hRealizes.statements hTries.statements⟩

def rehearsing : Updater Script where
  config := {}
  backend := { Script.backend with mode := .ephemeral }

/-- A client that refuses the first statement. -/
def reluctantScript : Script where
  client := .answers [.ok { exitCode := 1 }] false
  date := "2020-01-01 00:00:00"

def reluctantOperations : List Operation :=
  [.applyFile .locally (.ok ([UpdateFile.commentedHeader, "1,2"].map .ok)),
    .applyFile .locally (.ok ([UpdateFile.commentedHeader, "1,2", UpdateFile.commentedHeader,
      "3,4"].map .ok))]

theorem performAll_numbers_reluctant :
    let session : Session Script := { world := reluctantScript }
    let trials := rehearsing.trials [] session reluctantOperations
    let ended := (rehearsing.performAll [] reluctantOperations session).2
    rehearsing.backend.mode = .ephemeral ∧ session.counters = .empty ∧ trials.length = 3 ∧
      (Trial.given rehearsing.backend trials "DEMO").map UInt32.toNat = [1, 2] ∧
      (ended.counters.peek (validityTable "DEMO")).toNat = 3 := by
  intro session trials ended
  have hRuns : trials.map (fun trial =>
      (trial.header.table, (trial.seqno? rehearsing.backend).isSome)) =
        [("DEMO", false), ("DEMO", true), ("DEMO", true)] := by decide +kernel
  have hLength : trials.length = 3 := by simpa using congrArg List.length hRuns
  have hGiven : (Trial.given rehearsing.backend trials "DEMO").length = 2 := by
    obtain ⟨first, second, third, hTrials⟩ := List.length_eq_three.mp hLength
    rw [hTrials] at hRuns ⊢
    simp only [List.map_cons, List.map_nil, List.cons.injEq, Prod.mk.injEq, and_true,
      Option.isSome_iff_exists, Option.isSome_eq_false_iff, Option.isNone_iff_eq_none] at hRuns
    obtain ⟨⟨hFirst, hNone⟩, ⟨hSecond, _, hNumber⟩, hThird, _, hNext⟩ := hRuns
    simp [Trial.given, hFirst, hNone, hSecond, hNumber, hThird, hNext]
  obtain ⟨-, hNumbers, -⟩ :=
    @performAll_numbers _ rehearsing session rfl rfl [] reluctantOperations
  obtain ⟨hList, hPeek⟩ := hNumbers "DEMO" (by
    change (Trial.given rehearsing.backend trials "DEMO").length < _
    omega)
  refine ⟨rfl, rfl, hLength, ?_, ?_⟩
  · exact hList.trans (congrArg (List.range' 1) hGiven)
  · exact hPeek.trans (congrArg (· + 1) hGiven)

end Updater

end ValidityTables
