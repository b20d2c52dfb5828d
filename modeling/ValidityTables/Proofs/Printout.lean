import ValidityTables.Proofs.FileVerdict
import ValidityTables.Proofs.Numbering
import ValidityTables.Proofs.Rehearsal

/-! # The printout of a rehearsal

What a rehearsal makes of a file without raw statements is settled by the blocks that stand in it,
the date and the counters. A block is printed under the next number of its table, after the
statement that creates its table of validity rows if that was not printed before. So the printout is
a function of the blocks, and `applyFrom_printed` says that reading the file computes it.
-/

namespace ValidityTables

variable {σ : Type}

/-- A block as it is applied: a header with the rows that were read under it. -/
structure Load where
  header : Header
  rows : Rows := {}
  deriving DecidableEq, Repr

namespace Load

def push (convert : Bool) (load : Load) (line : String) : Load :=
  { load with rows := load.rows.push convert line }

def block (settings : BlockSettings) (load : Load) : Block where
  settings
  stage := .ready load.header load.rows

end Load

/-- A load under its number, and whether its table of validity rows is created for it. -/
structure Numbered extends Load where
  seqno : UInt32
  created : Bool

namespace Numbered

variable (settings : BlockSettings) (inserted : String) (numbered : Numbered)

def printed : List String :=
  (if numbered.created then
    [Statement.createValidityTable "CREATE TEMPORARY TABLE" numbered.header] else []) ++
    storingStatements settings inserted numbered.header numbered.rows numbered.seqno

def report : BlockReport :=
  storedReport settings numbered.header numbered.rows numbered.created numbered.seqno

end Numbered

namespace SequenceCounters

def number (counters : SequenceCounters) (load : Load) : Numbered where
  toLoad := load
  seqno := counters.peek load.header.validityTable
  created := !counters.isCreated load.header.validityTable

def past (counters : SequenceCounters) (load : Load) : SequenceCounters :=
  counters.tried load.header.validityTable (some (counters.number load).seqno)

def numberAll (counters : SequenceCounters) : List Load → List Numbered
  | [] => []
  | load :: rest => counters.number load :: (counters.past load).numberAll rest

def pastAll (counters : SequenceCounters) (loads : List Load) : SequenceCounters :=
  loads.foldl past counters

theorem numberAll_append (counters : SequenceCounters) (before later : List Load) :
    counters.numberAll (before ++ later) =
      counters.numberAll before ++ (counters.pastAll before).numberAll later := by
  induction before generalizing counters with
  | nil => rfl
  | cons load rest ih =>
    rw [List.cons_append, numberAll, ih]
    rfl

theorem pastAll_append (counters : SequenceCounters) (before later : List Load) :
    counters.pastAll (before ++ later) = (counters.pastAll before).pastAll later :=
  List.foldl_append

theorem numberAll_length (counters : SequenceCounters) (loads : List Load) :
    (counters.numberAll loads).length = loads.length := by
  induction loads generalizing counters with
  | nil => rfl
  | cons load rest ih => exact congrArg (· + 1) (ih _)

end SequenceCounters

section Prints

/-- A step of a rehearsal has printed these statements and counted up to these counters. -/
structure Prints (session : Session (Recorded σ)) (printed : List String)
    (counters : SequenceCounters) (after : Session (Recorded σ)) : Prop where
  printed : statements after.world.calls = statements session.world.calls ++ printed
  counters : after.counters = counters

theorem Prints.nothing (session : Session (Recorded σ)) :
    Prints session [] session.counters session :=
  ⟨(List.append_nil _).symm, rfl⟩

theorem Prints.append {session middle after : Session (Recorded σ)} {first second : List String}
    {counters last : SequenceCounters} (h : Prints session first counters middle)
    (hLater : Prints middle second last after) : Prints session (first ++ second) last after where
  printed := by rw [hLater.printed, h.printed, List.append_assoc]
  counters := hLater.counters

variable (backend : Backend σ) (print : String → σ → σ)

theorem query_printed (sql : String) (session : Session (Recorded σ)) :
    ∃ after, (backend.rehearsing print).recorded.query sql session = (.ok [sql], after) ∧
      Prints session [sql] session.counters after := by
  refine ⟨_, rehearsing_query sql session, ?_, rfl⟩
  simp [Recorded.add, statements]

namespace Block

theorem runAll_printed (printed : List String) (session : Session (Recorded σ)) :
    ∃ after, runAll (backend.rehearsing print).recorded printed session = (.ok (), after) ∧
      Prints session printed session.counters after := by
  induction printed generalizing session with
  | nil => exact ⟨session, rfl, .nothing session⟩
  | cons sql rest ih =>
    obtain ⟨middle, hQuery, hFirst⟩ := query_printed backend print sql session
    obtain ⟨after, hRest, hLater⟩ := ih middle
    rw [hFirst.counters] at hLater
    refine ⟨after, ?_, hFirst.append hLater⟩
    rw [runAll, Action.bind_apply, Action.discard_apply, hQuery]
    exact hRest

theorem ensureValidityTable_printed (header : Header) (session : Session (Recorded σ)) :
    let missing := !session.counters.isCreated header.validityTable
    ∃ after, ensureValidityTable (backend.rehearsing print).recorded header session =
        (.ok missing, after) ∧
      Prints session
        (if missing then [Statement.createValidityTable "CREATE TEMPORARY TABLE" header] else [])
        (session.counters.markCreated header.validityTable) after := by
  intro missing
  have hMissing : (backend.rehearsing print).recorded.validityTableMissing header.validityTable
      session = (.ok missing, session) := rfl
  rw [ensureValidityTable, Action.bind_apply, hMissing]
  cases hCreated : session.counters.isCreated header.validityTable with
  | true =>
    have hFound : missing = false := by simp [missing, hCreated]
    rw [SequenceCounters.markCreated_created hCreated, hFound]
    exact ⟨session, rfl, .nothing session⟩
  | false =>
    have hNone : missing = true := by simp [missing, hCreated]
    let noted : Session (Recorded σ) :=
      { session with counters := session.counters.markCreated header.validityTable }
    have hNote : (backend.rehearsing print).recorded.noteValidityTable header.validityTable
        session = (.ok (), noted) := rfl
    obtain ⟨after, hCreate, hPrints⟩ := query_printed backend print
      (Statement.createValidityTable "CREATE TEMPORARY TABLE" header) noted
    have hKeyword : (backend.rehearsing print).recorded.createKeyword =
        "CREATE TEMPORARY TABLE" := rfl
    rw [hNone]
    refine ⟨after, ?_, hPrints.printed, hPrints.counters⟩
    simp only [if_true, Action.bind_apply, hNote, Action.discard_apply, hKeyword, hCreate]
    rfl

theorem applyReady_printed (settings : BlockSettings) (inserted : String) (load : Load)
    (session : Session (Recorded σ)) :
    let numbered := session.counters.number load
    ∃ after, applyReady (backend.rehearsing print).recorded settings inserted load.header
        load.rows session =
          ((.ok (numbered.report settings), .applied load.header load.rows numbered.seqno), after) ∧
      Prints session (numbered.printed settings inserted) (session.counters.past load) after := by
  intro numbered
  obtain ⟨opened, hEnsure, hOpened⟩ :=
    ensureValidityTable_printed backend print load.header session
  let counted : Session (Recorded σ) :=
    { opened with counters := (opened.counters.allocate load.header.table).2 }
  have hAcquire : (backend.rehearsing print).recorded.acquireSeqno load.header.table
      settings.scope opened = (.ok (opened.counters.allocate load.header.table).1, counted) := rfl
  have hNumber : (opened.counters.allocate load.header.table).1 = numbered.seqno := by
    rw [hOpened.counters]
    rfl
  have hCounted : counted.counters = session.counters.past load := by
    change (opened.counters.allocate load.header.table).2 = _
    rw [hOpened.counters]
    rfl
  obtain ⟨after, hStored, hStoring⟩ := runAll_printed backend print
    (storingStatements settings inserted load.header load.rows numbered.seqno) counted
  refine ⟨after, ?_, ?_, hStoring.counters.trans hCounted⟩
  · rw [storingStatements] at hStored
    simp only [applyReady, Action.state_bind_apply, ExceptT.run, hEnsure, hAcquire, hNumber, store,
      Action.tryCatch_apply, hStored]
    rfl
  · rw [hStoring.printed]
    change statements opened.world.calls ++ _ = _
    rw [hOpened.printed, List.append_assoc]
    rfl

variable {date : String} (hDate : ∀ world, (backend.services.now world).1 = date)

include hDate

theorem apply_printed (settings : BlockSettings) {load : Load} (hRows : load.rows.isEmpty = false)
    (session : Session (Recorded σ)) :
    let numbered := session.counters.number load
    ∃ next after, apply (backend.rehearsing print).recorded (load.block settings) session =
        ((.ok (numbered.report settings), next), after) ∧
      Prints session (numbered.printed settings date) (session.counters.past load) after := by
  intro numbered
  rcases hNow : (backend.rehearsing print).recorded.now session with ⟨shown, told⟩
  have hShown : shown = date := by
    have hFirst := congrArg Prod.fst hNow
    exact hFirst.symm.trans (hDate session.world.world)
  have hTold : Prints session [] session.counters told := by
    cases hNow
    exact ⟨by simp [Recorded.add, statements], rfl⟩
  obtain ⟨after, hReady, hPrints⟩ := applyReady_printed backend print settings date load told
  rw [hTold.counters] at hReady hPrints
  refine ⟨{ settings, stage := .applied load.header load.rows numbered.seqno }, after, ?_,
    hTold.append hPrints⟩
  rw [apply, Action.state_bind_apply, hNow, hShown, Load.block, applyAt_ready _ _ _ _ hRows, hReady]

end Block

end Prints

namespace UpdateFile

/-- The load of a block that is closed, which must have rows. -/
def closed? : Option Load → Option (List Load)
  | none => some []
  | some load => if load.rows.isEmpty then none else some [load]

/-- The header of a line that may begin a block. -/
def opened? (line : String) : Option Header :=
  if (refusal? line).isSome then none else (Header.parse line).toOption

/-- The loads of lines without raw statements, where a block may be open before them. There are none
if the lines are not accepted. -/
def loadsFrom? (convert : Bool) : Option Load → List SourceLine → Option (List Load)
  | last?, [] => closed? last?
  | _, .error _ :: _ => none
  | last?, .ok line :: rest =>
    match LineKind.ofLine line with
    | .skipped => loadsFrom? convert last? rest
    | .statement _ => none
    | .row => do
      let load ← last?
      loadsFrom? convert (some (load.push convert line)) rest
    | .header => do
      let done ← closed? last?
      let header ← opened? line
      let later ← loadsFrom? convert (some { header }) rest
      return done ++ later

def beginsStatement : SourceLine → Bool
  | .ok line =>
    match LineKind.ofLine line with
    | .statement _ => true
    | .skipped | .header | .row => false
  | .error _ => false

/-- No raw statement begins in the lines. -/
def Plain (lines : List SourceLine) : Prop := ∀ line ∈ lines, beginsStatement line = false

theorem Plain.of_cons {line : SourceLine} {rest : List SourceLine} (h : Plain (line :: rest)) :
    Plain rest :=
  fun other hMem => h other (List.mem_cons_of_mem line hMem)

/-- How a rehearsal ends that reads on after these blocks. The loads that it reads are printed, and
reported after them; if there are none it fails. -/
inductive Reported (settings : BlockSettings) (date : String) (count : Nat)
    (blocks : List BlockReport) (session : Session (Recorded σ)) :
    Option (List Load) → Except UpdateError ApplyReport × Session (Recorded σ) → Prop
  | refused (e : UpdateError) (after : Session (Recorded σ)) :
      Reported settings date count blocks session none (.error e, after)
  | printed {loads : List Load} {later : List BlockReport} {after : Session (Recorded σ)} :
      later = blocks ++ (session.counters.numberAll loads).map (Numbered.report settings) →
      Prints session ((session.counters.numberAll loads).flatMap (Numbered.printed settings date))
        (session.counters.pastAll loads) after →
      Reported settings date count blocks session (some loads)
        (.ok { sqlStatements := count, blocks := later }, after)

/-- What is read after a block was closed is reported after it. -/
theorem Reported.after_closed {settings : BlockSettings} {date : String} {count : Nat}
    {blocks closed : List BlockReport} {session middle : Session (Recorded σ)} {loads : List Load}
    {later? : Option (List Load)} {ended : Except UpdateError ApplyReport × Session (Recorded σ)}
    (hBlocks : closed =
      blocks ++ (session.counters.numberAll loads).map (Numbered.report settings))
    (hPrints : Prints session
      ((session.counters.numberAll loads).flatMap (Numbered.printed settings date))
      (session.counters.pastAll loads) middle)
    (h : Reported settings date count closed middle later? ended) :
    Reported settings date count blocks session (later?.map (loads ++ ·)) ended := by
  cases h with
  | refused e after => exact .refused e after
  | printed hLaterBlocks hLater =>
    rw [hPrints.counters] at hLaterBlocks hLater
    refine .printed ?_ ?_
    · rw [SequenceCounters.numberAll_append, List.map_append, hLaterBlocks, hBlocks,
        List.append_assoc]
    · rw [SequenceCounters.numberAll_append, SequenceCounters.pastAll_append, List.flatMap_append]
      exact hPrints.append hLater

section Printed

variable (backend : Backend σ) (print : String → σ → σ) {date : String}
  (hDate : ∀ world, (backend.services.now world).1 = date) (settings : BlockSettings)

include hDate

theorem finishBlock_printed {progress : Progress} {last? : Option Load}
    (hBlock : progress.block = last?.map (Load.block settings)) (session : Session (Recorded σ)) :
    match closed? last? with
    | none => ∃ e after,
      finishBlock (backend.rehearsing print).recorded progress session = (.error e, after)
    | some loads => ∃ blocks after,
      finishBlock (backend.rehearsing print).recorded progress session =
        (.ok { progress with block := none, blocks }, after) ∧
      blocks.toList = progress.blocks.toList ++
        (session.counters.numberAll loads).map (Numbered.report settings) ∧
      Prints session ((session.counters.numberAll loads).flatMap (Numbered.printed settings date))
        (session.counters.pastAll loads) after := by
  obtain ⟨n, statement, block, count, blocks⟩ := progress
  cases last? with
  | none =>
    obtain rfl : block = none := hBlock
    exact ⟨blocks, session, rfl, by simp [SequenceCounters.numberAll], .nothing session⟩
  | some load =>
    obtain rfl : block = some (load.block settings) := hBlock
    simp only [closed?]
    cases hRows : load.rows.isEmpty with
    | true =>
      obtain ⟨next, after, hApply⟩ :=
        apply_waiting (backend.rehearsing print).recorded settings load.header hRows session
      refine ⟨.block (.empty load.header.table), after, ?_⟩
      simp only [finishBlock, Action.bind_apply, Action.lift_apply, Load.block, hApply]
      rfl
    | false =>
      obtain ⟨next, after, hApply, hPrints⟩ :=
        Block.apply_printed backend print hDate settings hRows session
      simp only [Bool.false_eq_true, if_false]
      refine ⟨blocks.push ((session.counters.number load).report settings), after, ?_, ?_, ?_⟩
      · simp only [finishBlock, Action.bind_apply, Action.lift_apply, hApply]
        rfl
      · simp [SequenceCounters.numberAll]
      · simpa [SequenceCounters.numberAll, SequenceCounters.pastAll] using hPrints

theorem beginBlock_printed (progress : Progress) {last? : Option Load}
    (hBlock : progress.block = last?.map (Load.block settings)) (line : String)
    (session : Session (Recorded σ)) :
    match closed? last?, opened? line with
    | some loads, some header => ∃ blocks after,
      beginBlock (backend.rehearsing print).recorded settings progress line session =
        (.ok { progress with block := some (Load.block settings { header }), blocks }, after) ∧
      blocks.toList = progress.blocks.toList ++
        (session.counters.numberAll loads).map (Numbered.report settings) ∧
      Prints session ((session.counters.numberAll loads).flatMap (Numbered.printed settings date))
        (session.counters.pastAll loads) after
    | _, _ => ∃ e after,
      beginBlock (backend.rehearsing print).recorded settings progress line session =
        (.error e, after) := by
  have hFinish := finishBlock_printed backend print hDate settings hBlock session
  rw [beginBlock, Action.bind_apply]
  cases hClosed : closed? last? with
  | none =>
    rw [hClosed] at hFinish
    obtain ⟨e, after, hError⟩ := hFinish
    rw [hError]
    exact ⟨e, after, rfl⟩
  | some loads =>
    rw [hClosed] at hFinish
    obtain ⟨blocks, middle, hDone, hBlocks, hPrints⟩ := hFinish
    obtain ⟨stage, hBegin, hStage⟩ := begin_trusting
      (backend.rehearsing print).recorded (fun _ _ => rfl) settings line middle
    simp only [hDone, Action.bind_apply, hBegin, opened?]
    cases hRefusal : refusal? line with
    | some reason =>
      rw [hRefusal] at hStage
      subst hStage
      exact ⟨.block reason, middle, rfl⟩
    | none =>
      rw [hRefusal] at hStage
      obtain ⟨header, hParse, rfl⟩ := hStage
      rw [hParse]
      exact ⟨blocks, middle, rfl, hBlocks, hPrints⟩

/-- A header closes the block before it and begins one without rows. -/
theorem header_printed {progress : Progress} {last? : Option Load}
    (hStatement : progress.statement = none)
    (hBlock : progress.block = last?.map (Load.block settings)) (line : String)
    (rest : List SourceLine) (session : Session (Recorded σ))
    (hRest : ∀ (header : Header) (next : Progress) (middle : Session (Recorded σ)),
      next.statement = none → next.block = some (Load.block settings { header }) →
      Reported settings date next.sqlStatements next.blocks.toList middle
        (loadsFrom? settings.convertUnsigned (some { header }) rest)
        (applyFrom (backend.rehearsing print).recorded settings next rest middle)) :
    Reported settings date progress.sqlStatements progress.blocks.toList session
      (do
        let done ← closed? last?
        let header ← opened? line
        let later ← loadsFrom? settings.convertUnsigned (some { header }) rest
        return done ++ later)
      ((beginBlock (backend.rehearsing print).recorded settings progress line >>= fun next =>
          applyFrom (backend.rehearsing print).recorded settings next rest : Action _ _)
        session) := by
  have hBegin := beginBlock_printed backend print hDate settings progress hBlock line session
  rw [Action.bind_apply]
  cases hClosed : closed? last? with
  | none =>
    rw [hClosed] at hBegin
    obtain ⟨e, after, hError⟩ := hBegin
    rw [hError]
    exact .refused e after
  | some loads =>
    cases hOpened : opened? line with
    | none =>
      rw [hClosed, hOpened] at hBegin
      obtain ⟨e, after, hError⟩ := hBegin
      rw [hError]
      exact .refused e after
    | some header =>
      rw [hClosed, hOpened] at hBegin
      obtain ⟨closed, middle, hBegun, hBlocks, hPrints⟩ := hBegin
      have hLater := hRest header
        { progress with block := some (Load.block settings { header }), blocks := closed } middle
        hStatement rfl
      rw [hBegun]
      simp only [Option.bind_eq_bind, Option.bind_some, Option.pure_def]
      have hAll := hLater.after_closed hBlocks hPrints
      rwa [Option.map_eq_bind] at hAll

/-- Reading lines without raw statements prints the loads that stand in them. -/
theorem applyFrom_printed {lines : List SourceLine} (hPlain : Plain lines) (progress : Progress)
    {last? : Option Load} (hStatement : progress.statement = none)
    (hBlock : progress.block = last?.map (Load.block settings)) (session : Session (Recorded σ)) :
    Reported settings date progress.sqlStatements progress.blocks.toList session
      (loadsFrom? settings.convertUnsigned last? lines)
      (applyFrom (backend.rehearsing print).recorded settings progress lines session) := by
  -- The induction carries the block that is open: `last?` is the load that it holds so far.
  induction lines generalizing progress last? session with
  | nil =>
    have hFinish := finishBlock_printed backend print hDate settings hBlock session
    simp only [loadsFrom?, applyFrom, finish, hStatement, Action.bind_apply]
    cases hClosed : closed? last? with
    | none =>
      rw [hClosed] at hFinish
      obtain ⟨e, after, hError⟩ := hFinish
      rw [hError]
      exact .refused e after
    | some loads =>
      rw [hClosed] at hFinish
      obtain ⟨blocks, after, hDone, hBlocks, hPrints⟩ := hFinish
      rw [hDone]
      exact .printed hBlocks hPrints
  | cons line rest ih =>
    cases line with
    | error fault => exact .refused (.io fault) session
    | ok line =>
      obtain ⟨n, statement, block, count, blocks⟩ := progress
      obtain rfl : statement = none := hStatement
      rw [applyFrom, takeLine, loadsFrom?]
      simp only
      cases hKind : LineKind.ofLine line with
      | skipped => exact ih hPlain.of_cons ⟨n + 1, none, block, count, blocks⟩ rfl hBlock session
      | statement text =>
        have hLine := hPlain (.ok line) List.mem_cons_self
        simp [beginsStatement, hKind] at hLine
      | row =>
        cases last? with
        | none =>
          obtain rfl : block = none := hBlock
          exact .refused (.rowOutsideBlock (n + 1)) session
        | some load =>
          obtain rfl : block = some (load.block settings) := hBlock
          exact @ih hPlain.of_cons
            ⟨n + 1, none, some ((load.push settings.convertUnsigned line).block settings), count,
              blocks⟩ (some (load.push settings.convertUnsigned line)) rfl rfl session
      | header =>
        have hHeader := @header_printed _ backend print _ hDate settings
          ⟨n + 1, none, block, count, blocks⟩ _ rfl hBlock line rest session
        exact hHeader fun header next middle hNone hOpen =>
          @ih hPlain.of_cons next (some { header }) hNone hOpen middle

end Printed

end UpdateFile

end ValidityTables
