import ValidityTables.Proofs.Application

/-! # Updates section by section

A section of a file is a header with the raw statements and the rows that follow it. An update goes
through the sections in order: it begins the block of a section, runs the statements and applies the
block. `run_updates` says that the run over the items of a file does this, and with which events.
-/

namespace ValidityTables

variable {σ : Type}

/-- The probes that a backend may use for a table. -/
def Backend.Asks (backend : Backend σ) (table : String) (probe : Option String) : Prop :=
  ∃ world, backend.services.probe table world = probe

theorem Backend.now_traces {backend : Backend σ} {session after : Session σ} {date : String}
    (h : backend.now session = (date, after)) :
    backend.Traces session.world [.clock date] after.world := by
  cases h
  exact ⟨_, .clock rfl (.nil _), .clock .nil⟩

namespace UpdateFile

/-- A header line with the raw statements and the rows that follow it. -/
structure Section where
  header : String
  statements : List String
  rows : List String
  deriving DecidableEq, Repr

def leadingRows : List Item → List String
  | [] => []
  | .header _ :: _ => []
  | .row _ line :: rest => line :: leadingRows rest
  | .statement _ :: rest | .stop _ :: rest => leadingRows rest

def leadingStatements : List Item → List String
  | [] => []
  | .header _ :: _ => []
  | .statement text :: rest => text :: leadingStatements rest
  | .row _ _ :: rest | .stop _ :: rest => leadingStatements rest

def sections : List Item → List Section
  | [] => []
  | .header line :: rest =>
    { header := line, statements := leadingStatements rest, rows := leadingRows rest } ::
      sections rest
  | .statement _ :: rest | .row _ _ :: rest | .stop _ :: rest => sections rest

theorem mem_of_mem_leadingRows {items : List Item} {line : String} (h : line ∈ leadingRows items) :
    ∃ n, .row n line ∈ items := by
  induction items with
  | nil => cases h
  | cons item rest ih =>
    cases item with
    | header => cases h
    | row n first =>
      obtain rfl | hRest := List.mem_cons.mp h
      · exact ⟨n, by simp⟩
      · obtain ⟨m, hMem⟩ := ih hRest
        exact ⟨m, List.mem_cons_of_mem _ hMem⟩
    | statement | stop =>
      obtain ⟨m, hMem⟩ := ih h
      exact ⟨m, List.mem_cons_of_mem _ hMem⟩

theorem mem_of_mem_leadingStatements {items : List Item} {text : String}
    (h : text ∈ leadingStatements items) : .statement text ∈ items := by
  induction items with
  | nil => cases h
  | cons item rest ih =>
    cases item with
    | header => cases h
    | statement first =>
      obtain rfl | hRest := List.mem_cons.mp h
      · simp
      · exact List.mem_cons_of_mem _ (ih hRest)
    | row | stop => exact List.mem_cons_of_mem _ (ih h)

theorem mem_of_mem_section {items : List Item} {part : Section} (hPart : part ∈ sections items) :
    (∀ line ∈ part.rows, ∃ n, .row n line ∈ items) ∧
      ∀ text ∈ part.statements, .statement text ∈ items := by
  induction items with
  | nil => cases hPart
  | cons item rest ih =>
    have hLater (h : part ∈ sections rest) :
        (∀ line ∈ part.rows, ∃ n, .row n line ∈ item :: rest) ∧
          ∀ text ∈ part.statements, .statement text ∈ item :: rest := by
      obtain ⟨hRows, hStatements⟩ := ih h
      refine ⟨fun line hMem => ?_, fun text hMem => List.mem_cons_of_mem _ (hStatements text hMem)⟩
      obtain ⟨n, hRow⟩ := hRows line hMem
      exact ⟨n, List.mem_cons_of_mem _ hRow⟩
    cases item with
    | header line =>
      obtain rfl | hRest := List.mem_cons.mp hPart
      · refine ⟨fun line hMem => ?_, fun text hMem => ?_⟩
        · obtain ⟨n, hRow⟩ := mem_of_mem_leadingRows hMem
          exact ⟨n, List.mem_cons_of_mem _ hRow⟩
        · exact List.mem_cons_of_mem _ (mem_of_mem_leadingStatements hMem)
      · exact hLater hRest
    | statement | row | stop => exact hLater hPart

/-- Running raw statements, as far as it gets. -/
inductive Ran : List String → List Event → Except UpdateError Unit → Prop
  | all {statements : List String} {events : List Event} : Succeeds statements events →
      Ran statements events (.ok ())
  | stopped {done : List String} {events : List Event} (rest : List String) (e : UpdateError) :
      Succeeds done events → Ran (done ++ rest) events (.error e)
  | failed {done : List String} {events : List Event} (sql : String) (rest : List String)
      (e : UpdateError) : Succeeds done events →
      Ran (done ++ sql :: rest) (events ++ [.statement sql (.error e)]) (.error e)

theorem Ran.nothing (statements : List String) (e : UpdateError) : Ran statements [] (.error e) :=
  @Ran.stopped [] [] statements e .nil

theorem Ran.refused (sql : String) (rest : List String) (e : UpdateError) :
    Ran (sql :: rest) [.statement sql (.error e)] (.error e) :=
  @Ran.failed [] [] sql rest e .nil

theorem Ran.events_nil {events : List Event} {result : Except UpdateError Unit}
    (h : Ran [] events result) : events = [] := by
  generalize hStatements : [] = statements at h
  cases h with
  | all hDone => subst hStatements; cases hDone; rfl
  | stopped rest e hDone =>
    obtain ⟨rfl, -⟩ := List.append_eq_nil_iff.mp hStatements.symm
    cases hDone
    rfl
  | failed sql rest e hDone => simp at hStatements

theorem Ran.cons {statements : List String} {events : List Event} {result : Except UpdateError Unit}
    (sql : String) (lines : List String) (h : Ran statements events result) :
    Ran (sql :: statements) (.statement sql (.ok lines) :: events) result := by
  cases h with
  | all hDone => exact .all (hDone.cons sql lines)
  | @stopped done _ rest e hDone =>
    exact @Ran.stopped (sql :: done) _ rest e (hDone.cons sql lines)
  | @failed done events failing rest e hDone =>
    exact @Ran.failed (sql :: done) (.statement sql (.ok lines) :: events) failing rest e
      (hDone.cons sql lines)

/-- Beginning the block of a header line. -/
inductive Begins (backend : Backend σ) (line : String) :
    List Event → Except UpdateError Header → Prop
  | unreadable {reason : BlockError} : Header.parse line = .error reason →
      Begins backend line [] (.error (.block reason))
  | unknown {header : Header} {probe : Option String} {events : List Event} {e : UpdateError} :
      Header.parse line = .ok header → backend.Asks header.table probe →
      Probes probe events (.error e) → Begins backend line events (.error e)
  | missing {header : Header} {probe : Option String} {events : List Event} :
      Header.parse line = .ok header → backend.Asks header.table probe →
      Probes probe events (.ok false) →
      Begins backend line events (.error (.block (.tableNotFound header.table)))
  | misdated {header : Header} {probe : Option String} {events : List Event}
      {reason : BlockError} :
      Header.parse line = .ok header → backend.Asks header.table probe →
      Probes probe events (.ok true) → header.checkDates line = .error reason →
      Begins backend line events (.error (.block reason))
  | begun {header : Header} {probe : Option String} {events : List Event} :
      Header.parse line = .ok header → backend.Asks header.table probe →
      Probes probe events (.ok true) → header.checkDates line = .ok () →
      Begins backend line events (.ok header)

/-- Closing the block of a section after its statements were run. -/
inductive Closes (backend : Backend σ) (settings : BlockSettings) (header : Header) (rows : Rows)
    (statements : List String) : List Event → Except UpdateError BlockReport → Prop
  | interrupted {events : List Event} {e : UpdateError} : Ran statements events (.error e) →
      Closes backend settings header rows statements events (.error e)
  | empty {before : List Event} (inserted : String) :
      Succeeds statements before → rows.isEmpty = true →
      Closes backend settings header rows statements (before ++ [.clock inserted])
        (.error (.block (.empty header.table)))
  | applied {before events : List Event} {probe : Option String} {inserted : String}
      {result : Except UpdateError BlockReport} {stage : Stage} :
      Succeeds statements before → rows.isEmpty = false →
      backend.Asks header.validityTable probe →
      Application backend.mode backend.createKeyword probe settings inserted header rows events
        (result, stage) →
      Closes backend settings header rows statements (before ++ .clock inserted :: events) result

def collected (convert : Bool) (rows : Rows) (lines : List String) : Rows :=
  lines.foldl (Rows.push convert) rows

/-- An update of the remaining sections: the reports of the blocks that were applied, the events,
and what ended it. -/
inductive Updates (backend : Backend σ) (settings : BlockSettings) :
    List Section → List BlockReport → List Event → Except UpdateError Unit → Prop
  | done : Updates backend settings [] [] [] (.ok ())
  | refused {first : Section} {rest : List Section} {events : List Event} {e : UpdateError} :
      Begins backend first.header events (.error e) →
      Updates backend settings (first :: rest) [] events (.error e)
  | failed {first : Section} {rest : List Section} {header : Header} {probing closing : List Event}
      {e : UpdateError} :
      Begins backend first.header probing (.ok header) →
      Closes backend settings header (collected settings.convertUnsigned {} first.rows)
        first.statements closing (.error e) →
      Updates backend settings (first :: rest) [] (probing ++ closing) (.error e)
  | applied {first : Section} {rest : List Section} {header : Header}
      {probing closing later : List Event} {report : BlockReport} {reports : List BlockReport}
      {outcome : Except UpdateError Unit} :
      Begins backend first.header probing (.ok header) →
      Closes backend settings header (collected settings.convertUnsigned {} first.rows)
        first.statements closing (.ok report) →
      Updates backend settings rest reports later outcome →
      Updates backend settings (first :: rest) (report :: reports) (probing ++ closing ++ later)
        outcome

/-- An update whose first block was begun before, and has rows already. -/
inductive Continues (backend : Backend σ) (settings : BlockSettings) (header : Header) (rows : Rows)
    (items : List Item) : List BlockReport → List Event → Except UpdateError Unit → Prop
  | failed {closing : List Event} {e : UpdateError} :
      Closes backend settings header
        (collected settings.convertUnsigned rows (leadingRows items)) (leadingStatements items)
        closing (.error e) →
      Continues backend settings header rows items [] closing (.error e)
  | applied {closing later : List Event} {report : BlockReport} {reports : List BlockReport}
      {outcome : Except UpdateError Unit} :
      Closes backend settings header
        (collected settings.convertUnsigned rows (leadingRows items)) (leadingStatements items)
        closing (.ok report) →
      Updates backend settings (sections items) reports later outcome →
      Continues backend settings header rows items (report :: reports) (closing ++ later) outcome

/-- An update of a whole file. -/
inductive Proceeds (backend : Backend σ) (settings : BlockSettings) (items : List Item) :
    List BlockReport → List Event → Except UpdateError Unit → Prop
  | interrupted {events : List Event} {e : UpdateError} :
      Ran (leadingStatements items) events (.error e) →
      Proceeds backend settings items [] events (.error e)
  | updated {leading events : List Event} {reports : List BlockReport}
      {outcome : Except UpdateError Unit} :
      leadingRows items = [] → Succeeds (leadingStatements items) leading →
      Updates backend settings (sections items) reports events outcome →
      Proceeds backend settings items reports (leading ++ events) outcome

section Run

variable {backend : Backend σ} {settings : BlockSettings} {session after : Session σ}

theorem Reached.execute_traces {reached : Reached} {text : String}
    {result : Except UpdateError Reached}
    (h : reached.execute backend text session = (result, after)) :
    ∃ outcome, backend.Traces session.world [.statement text outcome] after.world ∧
      result = outcome.map
        fun _ => { reached with sqlStatements := reached.sqlStatements + 1 } := by
  simp only [execute, Action.bind_apply, Action.discard_apply] at h
  rcases hQuery : backend.query text session with ⟨outcome, middle⟩
  have hTraces := backend.query_traces hQuery
  rw [hQuery] at h
  cases outcome <;> cases h <;> exact ⟨_, hTraces, rfl⟩

theorem Reached.start_traces {reached : Reached} {line : String}
    {result : Except UpdateError Reached}
    (h : reached.start backend settings line session = (result, after)) :
    ∃ events begun, backend.Traces session.world events after.world ∧
      Begins backend line events begun ∧
      result = begun.map
        fun header => { reached with block := some { settings, stage := .ready header {} } } := by
  rw [start, Action.bind_apply, Block.begin] at h
  cases hParse : Header.parse line with
  | error reason =>
    rw [hParse] at h
    cases h
    exact ⟨[], _, .nil _, .unreadable hParse, rfl⟩
  | ok header =>
    simp only [hParse, Action.bind_apply] at h
    rcases hExists : backend.tableExists header.table session with ⟨found, middle⟩
    obtain ⟨events, hProbes, hTraces⟩ := Backend.tableExists_traces hExists
    have hAsks : backend.Asks header.table (backend.services.probe header.table session.world) :=
      ⟨_, rfl⟩
    rw [hExists] at h
    cases found with
    | error e => cases h; exact ⟨events, _, hTraces, .unknown hParse hAsks hProbes, rfl⟩
    | ok found =>
      cases found with
      | false => cases h; exact ⟨events, _, hTraces, .missing hParse hAsks hProbes, rfl⟩
      | true =>
        cases hDates : header.checkDates line with
        | error reason =>
          simp only [hDates] at h
          cases h
          exact ⟨events, _, hTraces, .misdated hParse hAsks hProbes hDates, rfl⟩
        | ok _ =>
          simp only [hDates] at h
          cases h
          exact ⟨events, _, hTraces, .begun hParse hAsks hProbes hDates, rfl⟩

theorem Reached.close_traces {reached : Reached} {header : Header} {rows : Rows}
    {result : Except UpdateError Reached}
    (hBlock : reached.block = some { settings, stage := .ready header rows })
    (h : reached.close backend session = (result, after)) :
    ∃ events closed, backend.Traces session.world events after.world ∧
      Closes backend settings header rows [] events closed ∧
      result = closed.map
        fun report => { reached with block := none, blocks := reached.blocks.push report } := by
  simp only [close, hBlock, Block.apply, Action.state_bind_apply] at h
  rcases hNow : backend.now session with ⟨inserted, timed⟩
  have hTimed := Backend.now_traces hNow
  rw [hNow] at h
  simp only [Block.applyAt] at h
  cases hEmpty : rows.isEmpty with
  | true =>
    rw [hEmpty] at h
    cases h
    exact ⟨_, _, hTimed, .empty inserted .nil hEmpty, rfl⟩
  | false =>
    simp only [hEmpty, Bool.false_eq_true, if_false, Action.state_bind_apply] at h
    rcases hApply : Block.applyReady backend settings inserted header rows timed with
      ⟨⟨outcome, stage⟩, last⟩
    obtain ⟨events, hApplication, hTraces⟩ := Block.applyReady_traces hApply
    simp only [hApply] at h
    refine ⟨_, outcome, ?_, .applied .nil hEmpty ⟨_, rfl⟩ hApplication, ?_⟩
    · cases outcome <;> cases h <;> exact hTimed.append hTraces
    · cases outcome <;> cases h <;> rfl

theorem Closes.cons {header : Header} {rows : Rows} {statements : List String}
    {events : List Event} {result : Except UpdateError BlockReport} (sql : String)
    (lines : List String) (h : Closes backend settings header rows statements events result) :
    Closes backend settings header rows (sql :: statements) (.statement sql (.ok lines) :: events)
      result := by
  cases h with
  | interrupted hRan => exact .interrupted (hRan.cons sql lines)
  | empty inserted hBefore hRows =>
    rw [← List.cons_append]
    exact .empty inserted (hBefore.cons sql lines) hRows
  | applied hBefore hRows hAsks hApplication =>
    rw [← List.cons_append]
    exact .applied (hBefore.cons sql lines) hRows hAsks hApplication

theorem Continues.statement {header : Header} {rows : Rows} {items : List Item}
    {reports : List BlockReport} {events : List Event} {outcome : Except UpdateError Unit}
    (sql : String) (lines : List String)
    (h : Continues backend settings header rows items reports events outcome) :
    Continues backend settings header rows (.statement sql :: items) reports
      (.statement sql (.ok lines) :: events) outcome := by
  cases h with
  | failed hCloses => exact .failed (hCloses.cons sql lines)
  | applied hCloses hUpdates =>
    rw [← List.cons_append]
    exact .applied (hCloses.cons sql lines) hUpdates

theorem Continues.row {header : Header} {rows : Rows} {items : List Item}
    {reports : List BlockReport} {events : List Event} {outcome : Except UpdateError Unit}
    (n : Nat) (line : String)
    (h : Continues backend settings header (rows.push settings.convertUnsigned line) items reports
      events outcome) :
    Continues backend settings header rows (.row n line :: items) reports events outcome := by
  cases h with
  | failed hCloses => exact .failed hCloses
  | applied hCloses hUpdates => exact .applied hCloses hUpdates

theorem Proceeds.leaderless {items : List Item} {reports : List BlockReport} {events : List Event}
    {outcome : Except UpdateError Unit} (hRows : leadingRows items = [])
    (hStatements : leadingStatements items = [])
    (h : Updates backend settings (sections items) reports events outcome) :
    Proceeds backend settings items reports events outcome :=
  @Proceeds.updated _ _ _ _ [] _ _ _ hRows (hStatements ▸ .nil) h

/-- An update that is not ended by an error goes through all sections. -/
theorem Proceeds.updates {items : List Item} {reports : List BlockReport} {events : List Event}
    {outcome : Except UpdateError Unit}
    (h : Proceeds backend settings items reports events outcome) (hOutcome : outcome = .ok ()) :
    ∃ leading later, events = leading ++ later ∧ leadingRows items = [] ∧
      Succeeds (leadingStatements items) leading ∧
      Updates backend settings (sections items) reports later outcome := by
  cases h with
  | interrupted => cases hOutcome
  | updated hRows hLeading hUpdates => exact ⟨_, _, rfl, hRows, hLeading, hUpdates⟩

theorem Proceeds.statement {items : List Item} {reports : List BlockReport} {events : List Event}
    {outcome : Except UpdateError Unit} (sql : String) (lines : List String)
    (h : Proceeds backend settings items reports events outcome) :
    Proceeds backend settings (.statement sql :: items) reports
      (.statement sql (.ok lines) :: events) outcome := by
  cases h with
  | interrupted hRan => exact .interrupted (hRan.cons sql lines)
  | updated hRows hLeading hUpdates =>
    rw [← List.cons_append]
    exact .updated hRows (hLeading.cons sql lines) hUpdates

/-- Once its block is begun, a section is updated as one whose block is open. -/
theorem Updates.ofContinues {line : String} {header : Header} {items : List Item}
    {reports : List BlockReport} {probing events : List Event} {outcome : Except UpdateError Unit}
    (hBegins : Begins backend line probing (.ok header))
    (h : Continues backend settings header {} items reports events outcome) :
    Updates backend settings (sections (.header line :: items)) reports (probing ++ events)
      outcome := by
  cases h with
  | failed hCloses => exact .failed hBegins hCloses
  | applied hCloses hUpdates =>
    rw [← List.append_assoc]
    exact .applied hBegins hCloses hUpdates

/-- A block is begun, and the run goes on as one with an open block. -/
theorem run_begins {line : String} {rest : List Item} {reached : Reached} {stopped : Stopped}
    (hNext : ∀ {reached : Reached} {header : Header} {session : Session σ},
      reached.block = some { settings, stage := .ready header {} } →
      run backend settings reached rest session = (stopped, after) →
      ∃ reports events, backend.Traces session.world events after.world ∧
        Continues backend settings header {} rest reports events stopped.outcome ∧
        stopped.reached.blocks.toList = reached.blocks.toList ++ reports)
    (h : advance reached (reached.start backend settings line)
      (fun reached => run backend settings reached rest) session = (stopped, after)) :
    ∃ reports events, backend.Traces session.world events after.world ∧
      Updates backend settings (sections (.header line :: rest)) reports events stopped.outcome ∧
      stopped.reached.blocks.toList = reached.blocks.toList ++ reports := by
  rw [advance] at h
  rcases hStart : reached.start backend settings line session with ⟨result, begun⟩
  obtain ⟨probing, beginning, hProbing, hBegins, rfl⟩ := Reached.start_traces hStart
  rw [hStart] at h
  cases beginning with
  | error e =>
    cases h
    exact ⟨[], probing, hProbing, .refused hBegins, by simp⟩
  | ok header =>
    obtain ⟨reports, later, hLater, hContinues, hBlocks⟩ := hNext rfl h
    exact ⟨reports, _, hProbing.append hLater, .ofContinues hBegins hContinues, hBlocks⟩

/-- The run while a block is open. -/
theorem run_continues {items : List Item} {reached : Reached} {header : Header} {rows : Rows}
    {stopped : Stopped}
    (hBlock : reached.block = some { settings, stage := .ready header rows })
    (h : run backend settings reached items session = (stopped, after)) :
    ∃ reports events, backend.Traces session.world events after.world ∧
      Continues backend settings header rows items reports events stopped.outcome ∧
      stopped.reached.blocks.toList = reached.blocks.toList ++ reports := by
  -- `rows` are what the block has collected so far; the rest of its section leads the items.
  induction items generalizing reached header rows session with
  | nil =>
    simp only [run, advance] at h
    rcases hClose : reached.close backend session with ⟨result, closed⟩
    obtain ⟨events, closing, hTraces, hCloses, rfl⟩ := Reached.close_traces hBlock hClose
    rw [hClose] at h
    cases closing with
    | error e => cases h; exact ⟨[], events, hTraces, .failed hCloses, by simp⟩
    | ok report =>
      cases h
      refine ⟨[report], events ++ [], ?_, .applied hCloses .done, by simp⟩
      rw [List.append_nil]
      exact hTraces
  | cons item rest ih =>
    cases item with
    | statement text =>
      simp only [run, advance] at h
      rcases hExecute : reached.execute backend text session with ⟨result, middle⟩
      obtain ⟨outcome, hTraces, rfl⟩ := Reached.execute_traces hExecute
      rw [hExecute] at h
      cases outcome with
      | error e =>
        cases h
        exact ⟨[], _, hTraces, .failed (.interrupted (.refused text _ e)), by simp⟩
      | ok lines =>
        simp only [Except.map] at h
        obtain ⟨reports, events, hLater, hContinues, hBlocks⟩ := ih (by exact hBlock) h
        exact ⟨reports, _, hTraces.append hLater, hContinues.statement text lines, hBlocks⟩
    | header line =>
      rw [run, advance] at h
      rcases hClose : reached.close backend session with ⟨result, closed⟩
      obtain ⟨events, closing, hTraces, hCloses, rfl⟩ := Reached.close_traces hBlock hClose
      rw [hClose] at h
      cases closing with
      | error e => cases h; exact ⟨[], events, hTraces, .failed hCloses, by simp⟩
      | ok report =>
        obtain ⟨reports, later, hLater, hUpdates, hBlocks⟩ :=
          run_begins (fun hBlock hRun => ih hBlock hRun) h
        refine ⟨report :: reports, _, hTraces.append hLater, .applied hCloses hUpdates, ?_⟩
        simpa using hBlocks
    | row n line =>
      simp only [run, advance, Reached.addRow, hBlock, Block.addRow] at h
      obtain ⟨reports, events, hTraces, hContinues, hBlocks⟩ := ih rfl h
      exact ⟨reports, events, hTraces, hContinues.row n line, hBlocks⟩
    | stop e =>
      cases h
      exact ⟨[], [], .nil _, .failed (.interrupted (.nothing _ e)), by simp⟩

theorem run_updates {items : List Item} {reached : Reached} {stopped : Stopped}
    (hBlock : reached.block = none)
    (h : run backend settings reached items session = (stopped, after)) :
    ∃ reports events, backend.Traces session.world events after.world ∧
      Proceeds backend settings items reports events stopped.outcome ∧
      stopped.reached.blocks.toList = reached.blocks.toList ++ reports := by
  induction items generalizing reached session with
  | nil =>
    simp only [run, advance, Reached.close, hBlock] at h
    cases h
    exact ⟨[], _, .nil _, .leaderless rfl rfl .done, by simp⟩
  | cons item rest ih =>
    cases item with
    | statement text =>
      simp only [run, advance] at h
      rcases hExecute : reached.execute backend text session with ⟨result, middle⟩
      obtain ⟨outcome, hTraces, rfl⟩ := Reached.execute_traces hExecute
      rw [hExecute] at h
      cases outcome with
      | error e =>
        cases h
        exact ⟨[], _, hTraces, .interrupted (.refused text _ e), by simp⟩
      | ok lines =>
        simp only [Except.map] at h
        obtain ⟨reports, events, hLater, hProceeds, hBlocks⟩ := ih (by exact hBlock) h
        exact ⟨reports, _, hTraces.append hLater, hProceeds.statement text lines, hBlocks⟩
    | header line =>
      rw [run, advance, Reached.close, hBlock] at h
      obtain ⟨reports, events, hTraces, hUpdates, hBlocks⟩ := run_begins run_continues h
      exact ⟨reports, events, hTraces, .leaderless rfl rfl hUpdates, hBlocks⟩
    | row n line =>
      simp only [run, advance, Reached.addRow, hBlock] at h
      cases h
      exact ⟨[], [], .nil _, .interrupted (.nothing _ _), by simp⟩
    | stop e =>
      cases h
      exact ⟨[], [], .nil _, .interrupted (.nothing _ e), by simp⟩

end Run

/-- The calls of an update are the events of its sections, in the recorded run. -/
theorem apply_proceeds (backend : Backend σ) (settings : BlockSettings) (lines : List SourceLine)
    (session : Session σ) :
    let ended := run backend settings {} (items lines) session
    let made := calls backend settings lines session
    ∃ events,
      Proceeds backend.recorded settings (items lines) ended.1.reached.blocks.toList events
        ended.1.outcome ∧
      Realizes backend.attempts events made ∧
      Path backend.recorded.services { world := session.world }
        made { world := ended.2.world, calls := made } := by
  intro ended made
  have hMirrors := run_mirrors backend settings (items lines) {} (session.recording [])
  rcases hRun : run backend.recorded settings {} (items lines) (session.recording []) with
    ⟨stopped, after⟩
  rw [hRun, Session.forget_recording] at hMirrors
  obtain ⟨reports, events, ⟨calls, hPath, hRealizes⟩, hProceeds, hBlocks⟩ := run_updates rfl hRun
  have hAfter : after.world = { world := ended.2.world, calls } := by
    have hCalls : after.world.calls = calls := hPath.recorded
    simp only [ended, hMirrors, Session.forget, ← hCalls]
  have hMade : made = calls := by
    simp only [made, UpdateFile.calls, apply_eq_run, hRun, hAfter]
  have hReports : ended.1.reached.blocks.toList = reports := by
    simpa [ended, hMirrors] using hBlocks
  rw [hAfter] at hPath
  rw [hMade, hReports]
  refine ⟨events, ?_, hRealizes, hPath⟩
  simpa [ended, hMirrors] using hProceeds

end UpdateFile

end ValidityTables
