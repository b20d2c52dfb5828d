import ValidityTables.Proofs.Answers
import ValidityTables.Proofs.Application
import ValidityTables.Proofs.FileGrammar
import ValidityTables.Proofs.Utf8
import ValidityTables.UpdateFile.Source
import ValidityTables.Updater

/-! # A rehearsal accepts the grammar

Where statements are only printed nothing can fail but the file itself. So a file is accepted if and
only if it is grammatical, and otherwise the error is that of what is noticed first.
-/

namespace ValidityTables

variable {σ α : Type} (backend : Backend σ) (print : String → σ → σ)

section Rehearsing

theorem rehearsing_query_ok (sql : String) (session : Session σ) :
    ∃ after, (backend.rehearsing print).query sql session = (.ok [sql], after) := by
  refine ⟨_, Backend.query_answered rfl ?_⟩
  rintro reply hReply
  cases hReply
  rfl

theorem runAll_ok (statements : List String) (session : Session σ) :
    ∃ after, Block.runAll (backend.rehearsing print) statements session = (.ok (), after) := by
  induction statements generalizing session with
  | nil => exact ⟨session, rfl⟩
  | cons sql rest ih =>
    obtain ⟨middle, hQuery⟩ := rehearsing_query_ok backend print sql session
    obtain ⟨after, hRest⟩ := ih middle
    refine ⟨after, ?_⟩
    rw [Block.runAll, Action.bind_apply, Action.discard_apply, hQuery]
    exact hRest

theorem ensureValidityTable_ok (header : Header) (session : Session σ) :
    ∃ created after, Block.ensureValidityTable (backend.rehearsing print) header session =
      (.ok created, after) := by
  have hMissing : (backend.rehearsing print).validityTableMissing header.validityTable session =
      (.ok (!session.counters.isCreated header.validityTable), session) := rfl
  rw [Block.ensureValidityTable, Action.bind_apply, hMissing]
  cases session.counters.isCreated header.validityTable with
  | true => exact ⟨false, session, rfl⟩
  | false =>
    let noted : Session σ :=
      { session with counters := session.counters.markCreated header.validityTable }
    have hNote : (backend.rehearsing print).noteValidityTable header.validityTable session =
        (.ok (), noted) := rfl
    obtain ⟨after, hCreate⟩ := rehearsing_query_ok backend print
      (Statement.createValidityTable (backend.rehearsing print).createKeyword header) noted
    refine ⟨true, after, ?_⟩
    simp only [Bool.not_false, if_true, Action.bind_apply, hNote, Action.discard_apply, hCreate]
    rfl

theorem applyReady_ok (settings : BlockSettings) (inserted : String) (header : Header)
    (rows : Rows) (session : Session σ) :
    ∃ report stage after,
      Block.applyReady (backend.rehearsing print) settings inserted header rows session =
        ((.ok report, stage), after) := by
  obtain ⟨created, opened, hEnsure⟩ :=
    ensureValidityTable_ok backend print header session
  let seqno := (opened.counters.allocate header.table).1
  let numbered : Session σ :=
    { opened with counters := (opened.counters.allocate header.table).2 }
  have hAcquire : (backend.rehearsing print).acquireSeqno header.table settings.scope opened =
      (.ok seqno, numbered) := rfl
  obtain ⟨after, hRun⟩ := runAll_ok backend print
    (Statement.insertRows header.table seqno rows.toList settings.maxValuesBytes ++
      [Statement.insertValidityRow header seqno inserted]) numbered
  refine ⟨storedReport settings header rows created seqno, .applied header rows seqno, after, ?_⟩
  simp only [Block.applyReady, Action.state_bind_apply, ExceptT.run, hEnsure, hAcquire,
    Block.store, Action.tryCatch_apply, hRun]
  rfl

/-- Where every table is taken to exist, a header line is only refused for what it says. -/
theorem begin_trusting (trusting : Backend σ)
    (hTrusting : ∀ table world, trusting.services.probe table world = none)
    (settings : BlockSettings) (line : String) (session : Session σ) :
    ∃ stage, Block.begin trusting settings line session = (.ok { settings, stage }, session) ∧
      match UpdateFile.refusal? line with
      | some reason => stage = .refused reason
      | none => ∃ header, Header.parse line = .ok header ∧ stage = .ready header {} := by
  unfold Block.begin UpdateFile.refusal?
  cases hParse : Header.parse line with
  | error reason => exact ⟨.refused reason, rfl, rfl⟩
  | ok header =>
    have hExists : trusting.tableExists header.table session = (.ok true, session) := by
      rw [Backend.tableExists, hTrusting]
    simp only [Action.bind_apply, hExists, Bool.not_true, Bool.false_eq_true, if_false]
    cases header.checkDates line with
    | error reason => exact ⟨.refused reason, rfl, rfl⟩
    | ok _ => exact ⟨.ready header {}, rfl, header, rfl, rfl⟩

theorem apply_waiting (settings : BlockSettings) (header : Header) {rows : Rows}
    (hRows : rows.isEmpty = true) (session : Session σ) :
    ∃ next after, Block.apply backend { settings, stage := .ready header rows } session =
      ((.error (.block (.empty header.table)), next), after) := by
  rw [Block.apply, Action.state_bind_apply, Block.applyAt_waiting backend settings _ header hRows]
  exact ⟨_, _, rfl⟩

theorem apply_ready_ok (settings : BlockSettings) (header : Header) {rows : Rows}
    (hRows : rows.isEmpty = false) (session : Session σ) :
    ∃ report next after,
      Block.apply (backend.rehearsing print) { settings, stage := .ready header rows } session =
        ((.ok report, next), after) := by
  obtain ⟨report, stage, after, hReady⟩ := applyReady_ok backend print
    settings ((backend.rehearsing print).now session).1 header rows
    ((backend.rehearsing print).now session).2
  rw [Block.apply, Action.state_bind_apply, Block.applyAt_ready _ settings _ header hRows, hReady]
  exact ⟨report, _, after, rfl⟩

end Rehearsing

namespace UpdateFile

theorem unfinished?_push (before : List LineRole) (role : LineRole) :
    unfinished? (before ++ [role]) = match role with
      | .statement start text => if terminated text then none else some (start, text)
      | _ => none := by
  unfold unfinished?
  rw [List.getLast?_concat]
  cases role <;> rfl

theorem emptySection?_push (before : List LineRole) (role : LineRole) :
    emptySection? (before ++ [role]) = match role with
      | .header line => (Header.parse line).toOption
      | .row => none
      | _ => emptySection? before := by
  unfold emptySection?
  rw [List.reverse_concat]
  cases role <;> rfl

theorem terminated_of_unfinished? {before : List LineRole} {start : Nat} {text : String}
    (h : unfinished? before = some (start, text)) : terminated text = false := by
  unfold unfinished? at h
  split at h
  · split at h
    · cases h
    · rename_i hText
      cases h
      simpa using hText
  · cases h

/-- Where the driver stands after lines with these roles. -/
structure Reads (settings : BlockSettings) (before : List LineRole) (progress : Progress) :
    Prop where
  lineNumber : progress.lineNumber = before.length
  statement : progress.statement.map (fun statement => (statement.lineNumber, statement.text)) =
    unfinished? before
  outside : progress.block = none → ∀ line, .header line ∉ before
  inside : ∀ block, progress.block = some block → ∃ line header rows, .header line ∈ before ∧
    block = { settings, stage := .ready header rows } ∧
    emptySection? before = if rows.isEmpty then some header else none

theorem emptySection?_outside {before : List LineRole} (h : ∀ line, .header line ∉ before) :
    emptySection? before = none := by
  cases hEmpty : emptySection? before with
  | none => rfl
  | some header =>
    obtain ⟨front, line, between, rfl, -⟩ := emptySection?_split hEmpty
    exact absurd (by simp) (h line)

/-- A step after some lines fails with what is noticed at the next line or at the end. If it does
not fail, nothing is noticed there. -/
def Verdict (before : List LineRole) (role : Option LineRole) (holds : α → Prop) :
    Except UpdateError α → Prop
  | .error e => Violation before role e
  | .ok a => holds a ∧ ∀ e, ¬Violation before role e

section Driver

variable {settings : BlockSettings} {before : List LineRole} {progress : Progress}

/-- Closing a section, at the end of the file or at its line `n`. -/
theorem finishBlock_verdict (h : Reads settings before progress) (n : Nat) (session : Session σ) :
    match emptySection? before with
    | some header => ∃ after,
      finishBlock (backend.rehearsing print) { progress with lineNumber := n } session =
        (.error (.block (.empty header.table)), after)
    | none => ∃ blocks after,
      finishBlock (backend.rehearsing print) { progress with lineNumber := n } session =
        (.ok { progress with lineNumber := n, block := none, blocks }, after) := by
  cases hBlock : progress.block with
  | none =>
    rw [emptySection?_outside (h.outside hBlock)]
    refine ⟨progress.blocks, session, ?_⟩
    simp only [finishBlock]
    rw [← hBlock]
    rfl
  | some block =>
    obtain ⟨line, header, rows, -, rfl, hEmpty⟩ := h.inside block hBlock
    rw [hEmpty]
    cases hRows : rows.isEmpty with
    | true =>
      obtain ⟨next, after, hApply⟩ :=
        apply_waiting (backend.rehearsing print) settings header hRows session
      refine ⟨after, ?_⟩
      simp only [finishBlock, Action.bind_apply, Action.lift_apply, hApply]
      rfl
    | false =>
      obtain ⟨report, next, after, hApply⟩ :=
        apply_ready_ok backend print settings header hRows session
      refine ⟨progress.blocks.push report, after, ?_⟩
      simp only [finishBlock, Action.bind_apply, Action.lift_apply, hApply]
      rfl

theorem continueStatement_ok (progress : Progress) (statement : OpenStatement)
    (session : Session σ) :
    ∃ count after, continueStatement (backend.rehearsing print) progress statement session =
      (.ok { progress with
        statement := if statement.isComplete then none else some statement
        sqlStatements := count }, after) := by
  unfold continueStatement
  cases hComplete : statement.isComplete with
  | false => exact ⟨progress.sqlStatements, session, rfl⟩
  | true =>
    obtain ⟨after, hQuery⟩ :=
      rehearsing_query_ok backend print statement.text session
    refine ⟨progress.sqlStatements + 1, after, ?_⟩
    simp only [if_true, Action.bind_apply, Action.discard_apply, hQuery]
    rfl

/-- A line that is neither a header nor a row leaves the open block alone. -/
theorem Reads.kept (h : Reads settings before progress) {role : LineRole}
    (hRole : role.isEntry = false) {next : Progress}
    (hNumber : next.lineNumber = progress.lineNumber + 1) (hBlock : next.block = progress.block)
    (hStatement : next.statement.map (fun statement => (statement.lineNumber, statement.text)) =
      unfinished? (before ++ [role])) : Reads settings (before ++ [role]) next where
  lineNumber := by rw [hNumber, h.lineNumber, List.length_append, List.length_singleton]
  statement := hStatement
  outside hNone line hMem := by
    obtain hBefore | hLast := List.mem_append.mp hMem
    · exact h.outside (hBlock ▸ hNone) line hBefore
    · rw [← List.mem_singleton.mp hLast] at hRole
      cases hRole
  inside block hSome := by
    obtain ⟨line, header, rows, hMem, hBegun, hEmpty⟩ := h.inside block (hBlock ▸ hSome)
    refine ⟨line, header, rows, List.mem_append_left _ hMem, hBegun, ?_⟩
    rw [← hEmpty, emptySection?_push]
    cases role <;> first | rfl | cases hRole

/-- A header or a row leaves a block open, in the section of the last header. -/
theorem Reads.entered (h : Reads settings before progress) {role : LineRole}
    (hRole : role.isEntry = true) {next : Progress} {line : String} {header : Header} {rows : Rows}
    (hNumber : next.lineNumber = progress.lineNumber + 1) (hStatement : next.statement = none)
    (hBlock : next.block = some { settings, stage := .ready header rows })
    (hMem : .header line ∈ before ++ [role])
    (hEmpty : emptySection? (before ++ [role]) = if rows.isEmpty then some header else none) :
    Reads settings (before ++ [role]) next where
  lineNumber := by rw [hNumber, h.lineNumber, List.length_append, List.length_singleton]
  statement := by
    rw [hStatement, unfinished?_push]
    cases role <;> first | rfl | cases hRole
  outside hNone := by
    rw [hBlock] at hNone
    cases hNone
  inside block hSome := by
    rw [hBlock] at hSome
    cases hSome
    exact ⟨line, header, rows, hMem, rfl, hEmpty⟩

theorem statement_verdict (h : Reads settings before progress) {statement : OpenStatement}
    {text : String} (hText : statement.text = text)
    (hComplete : statement.isComplete = terminated text) (session : Session σ) :
    Verdict before (some (.statement statement.lineNumber text))
      (Reads settings (before ++ [.statement statement.lineNumber text]))
      (continueStatement (backend.rehearsing print)
        { progress with lineNumber := progress.lineNumber + 1 } statement session).1 := by
  subst hText
  obtain ⟨count, after, hContinue⟩ := continueStatement_ok backend print
    { progress with lineNumber := progress.lineNumber + 1 } statement session
  rw [hContinue]
  refine ⟨h.kept rfl rfl rfl ?_, fun e hViolation => by cases hViolation⟩
  simp only [unfinished?_push, ← hComplete]
  cases statement.isComplete <;> rfl

theorem header_verdict (h : Reads settings before progress) (hStatement : progress.statement = none)
    (line : String) (session : Session σ) :
    Verdict before (some (.header line)) (Reads settings (before ++ [.header line]))
      (beginBlock (backend.rehearsing print) settings
        { progress with lineNumber := progress.lineNumber + 1 } line session).1 := by
  have hFinish := finishBlock_verdict backend print h (progress.lineNumber + 1) session
  rw [beginBlock, Action.bind_apply]
  cases hEmpty : emptySection? before with
  | some header =>
    rw [hEmpty] at hFinish
    obtain ⟨after, hError⟩ := hFinish
    rw [hError]
    exact .empty hEmpty
  | none =>
    rw [hEmpty] at hFinish
    obtain ⟨blocks, middle, hClosed⟩ := hFinish
    obtain ⟨stage, hBegin, hStage⟩ := begin_trusting (backend.rehearsing print)
      (fun _ _ => rfl) settings line middle
    simp only [hClosed, Action.bind_apply, hBegin]
    cases hRefusal : refusal? line with
    | some reason =>
      rw [hRefusal] at hStage
      subst hStage
      exact .refused hEmpty hRefusal
    | none =>
      rw [hRefusal] at hStage
      obtain ⟨header, hParse, rfl⟩ := hStage
      refine ⟨h.entered rfl rfl hStatement rfl List.mem_concat_self ?_, ?_⟩
      · simp [emptySection?_push, hParse, Except.toOption, Rows.isEmpty]
      · intro e hViolation
        cases hViolation with
        | empty hSome =>
          rw [hEmpty] at hSome
          cases hSome
        | refused _ hSome =>
          rw [hRefusal] at hSome
          cases hSome

theorem row_verdict (h : Reads settings before progress) (hStatement : progress.statement = none)
    (line : String) :
    Verdict before (some .row) (Reads settings (before ++ [.row]))
      (addRow { progress with lineNumber := progress.lineNumber + 1 } line) := by
  unfold addRow
  cases hBlock : progress.block with
  | none =>
    rw [h.lineNumber]
    exact .outside (h.outside hBlock)
  | some block =>
    obtain ⟨begun, header, rows, hMem, rfl, -⟩ := h.inside block hBlock
    refine ⟨h.entered rfl rfl hStatement rfl (List.mem_append_left _ hMem) ?_, ?_⟩
    · simp [emptySection?_push, Rows.isEmpty, Rows.push]
    · intro e hViolation
      cases hViolation with
      | outside hOutside => exact hOutside begun hMem

theorem takeLine_verdict (h : Reads settings before progress) (line : String)
    (session : Session σ) :
    Verdict before (some (roleAfter before (.ok line)))
      (Reads settings (before ++ [roleAfter before (.ok line)]))
      (takeLine (backend.rehearsing print) settings
        { progress with lineNumber := progress.lineNumber + 1 } line session).1 := by
  unfold takeLine roleAfter
  rw [← h.statement]
  cases hStatement : progress.statement with
  | some statement =>
    have hOpen : unfinished? before = some (statement.lineNumber, statement.text) := by
      rw [← h.statement, hStatement]
      rfl
    -- The statement was open, so it can only be completed by the piece that is added.
    have hText := terminated_of_unfinished? hOpen
    exact statement_verdict backend print h (statement.text_push _)
      (statement.isComplete_push _ hText) session
  | none =>
    simp only [Option.map_none]
    cases hKind : LineKind.ofLine line with
    | skipped =>
      refine ⟨h.kept rfl rfl rfl ?_, fun e hViolation => by cases hViolation⟩
      rw [unfinished?_push]
      rfl
    | statement text =>
      have hText : OpenStatement.text { lineNumber := before.length + 1, pieces := [text] } =
          text := by
        simp [OpenStatement.text, String.join]
      have hVerdict := statement_verdict backend print h hText rfl session
      rw [h.lineNumber] at hVerdict ⊢
      exact hVerdict
    | header => simpa only [hStatement] using header_verdict backend print h hStatement line session
    | row => simpa only [hStatement, Action.mk_pure_apply] using row_verdict h hStatement line

theorem finish_verdict (h : Reads settings before progress) (session : Session σ) :
    Verdict before none (fun _ => True)
      (finish (backend.rehearsing print) progress session).1 := by
  have hOpen := h.statement
  unfold finish
  cases hStatement : progress.statement with
  | some statement =>
    rw [hStatement] at hOpen
    exact .unterminated hOpen.symm
  | none =>
    rw [hStatement] at hOpen
    have hFinish := finishBlock_verdict backend print h progress.lineNumber session
    simp only [Action.bind_apply]
    cases hEmpty : emptySection? before with
    | some header =>
      rw [hEmpty] at hFinish
      obtain ⟨after, hError⟩ := hFinish
      rw [hError]
      exact .emptyAtEnd hOpen.symm hEmpty
    | none =>
      rw [hEmpty] at hFinish
      obtain ⟨blocks, after, hClosed⟩ := hFinish
      rw [hClosed]
      refine ⟨trivial, fun e hViolation => ?_⟩
      cases hViolation with
      | unterminated hSome =>
        rw [← hOpen] at hSome
        cases hSome
      | emptyAtEnd _ hSome =>
        rw [hEmpty] at hSome
        cases hSome

/-- The rest of a file, after lines at which nothing was noticed. -/
theorem applyFrom_verdict (lines : List SourceLine) (h : Reads settings before progress)
    (hClean : Clean before) (session : Session σ) :
    match (applyFrom (backend.rehearsing print) settings progress lines session).1 with
    | .error e => FirstViolation (rolesFrom before lines) e
    | .ok _ =>
      Clean (rolesFrom before lines) ∧ ∀ e, ¬Violation (rolesFrom before lines) none e := by
  -- The lines before are clean and tell where the driver stands, until a line is refused.
  induction lines generalizing before progress session with
  | nil =>
    have hVerdict := finish_verdict backend print h session
    rw [rolesFrom, applyFrom]
    cases hResult : (finish (backend.rehearsing print) progress session).1 with
    | error e =>
      rw [hResult] at hVerdict
      exact ⟨before, [], (List.append_nil before).symm, hClean, hVerdict⟩
    | ok report =>
      rw [hResult] at hVerdict
      exact ⟨hClean, hVerdict.2⟩
  | cons line rest ih =>
    have hFirst {e : UpdateError} (hViolation : Violation before (some (roleAfter before line)) e) :
        FirstViolation (rolesFrom before (line :: rest)) e := by
      obtain ⟨later, hLater⟩ := rolesFrom_append rest (before ++ [roleAfter before line])
      refine ⟨before, roleAfter before line :: later, ?_, hClean, hViolation⟩
      rw [rolesFrom, hLater, List.append_assoc]
      rfl
    cases line with
    | error fault => exact hFirst (.unreadable fault)
    | ok line =>
      have hVerdict := takeLine_verdict backend print h line session
      rw [applyFrom, Action.bind_apply]
      rcases hTake : takeLine (backend.rehearsing print) settings
        { progress with lineNumber := progress.lineNumber + 1 } line session with ⟨e | next, after⟩
      · rw [hTake] at hVerdict
        exact hFirst hVerdict
      · rw [hTake] at hVerdict
        obtain ⟨hNext, hNone⟩ := hVerdict
        exact ih hNext (hClean.push hNone) after

end Driver

theorem reads_nothing (settings : BlockSettings) : Reads settings [] {} where
  lineNumber := rfl
  statement := rfl
  outside _ _ hMem := by cases hMem
  inside _ hSome := by cases hSome

theorem readable_ofBytes (bytes : List UInt8) : Readable (roles (ofBytes bytes)) ↔
    ∀ line ∈ Text.byteLines bytes, line.toByteArray.IsValidUTF8 := by
  rw [readable_iff, ofBytes]
  constructor
  · intro hReadable line hLine
    rw [← Text.Utf8.decode?_isSome]
    cases hDecode : Text.Utf8.decode? line with
    | some text => rfl
    | none => exact absurd (List.mem_map.mpr ⟨line, hLine, by rw [readLine, hDecode]⟩) (hReadable _)
  · intro hValid fault hFault
    obtain ⟨line, hLine, hRead⟩ := List.mem_map.mp hFault
    obtain ⟨text, hDecode⟩ := Option.isSome_iff_exists.mp
      (Text.Utf8.decode?_isSome.mpr (hValid line hLine))
    rw [readLine, hDecode] at hRead
    cases hRead

end UpdateFile

namespace Updater

open UpdateFile

/-- A rehearsal accepts a file if and only if its lines are UTF-8 and it is grammatical, and
otherwise gives the error of what is noticed first. -/
theorem applyLines_verdict (config : Config) (backend : Backend σ) (print : String → σ → σ)
    (bytes : List UInt8) (session : Session σ) :
    let rehearsal : Updater σ := ⟨config, backend.rehearsing print⟩
    let result := (rehearsal.applyLines .locally (ofBytes bytes) session).1
    ((∃ report, result = .ok report) ↔
      (∀ line ∈ Text.byteLines bytes, line.toByteArray.IsValidUTF8) ∧
        Grammatical (roles (ofBytes bytes))) ∧
      ∀ e, result = .error e ↔ FirstViolation (roles (ofBytes bytes)) e := by
  intro rehearsal result
  rw [← readable_ofBytes, grammatical_iff]
  have hVerdict := applyFrom_verdict backend print (ofBytes bytes)
    (reads_nothing (blockSettings config .locally)) Clean.nil session
  change match result with | .error e => _ | .ok _ => _ at hVerdict
  cases hOutcome : result with
  | error e =>
    rw [hOutcome] at hVerdict
    have hNotClean : ¬(Clean (roles (ofBytes bytes)) ∧
        ∀ e, ¬Violation (roles (ofBytes bytes)) none e) :=
      fun ⟨hClean, hEnd⟩ => hEnd e (hVerdict.not_clean hClean)
    simp only [reduceCtorEq, exists_false, hNotClean, Except.error.injEq, true_and]
    intro other
    constructor
    · rintro rfl
      exact hVerdict
    · intro hOther
      exact hOther.unique hVerdict
  | ok report =>
    rw [hOutcome] at hVerdict
    have hNotFirst : ∀ e, ¬FirstViolation (roles (ofBytes bytes)) e :=
      fun e hFirst => hVerdict.2 e (hFirst.not_clean hVerdict.1)
    exact ⟨⟨fun _ => hVerdict, fun _ => ⟨report, rfl⟩⟩, fun e => by simp [hNotFirst]⟩

def headerOf (table : String) : String :=
  "BEGIN_TABLE " ++ table ++
    " '2001-01-01 00:00:00' '2002-01-01 00:00:00' 1 '2001-01-01 00:00:00'"

/-- A header without rows, and after it a header that cannot be read. -/
def unfilledLines : List String :=
  ["SQL select", "# 1;", " # 5,6", headerOf "DEMO", "1,2", headerOf "LATER", "BEGIN_TABLE DEMO",
    "3,4", "SQL select 2"]

def unfilledFile : List UInt8 := ("\n".intercalate unfilledLines).toUTF8.toList

theorem applyLines_verdict_unfilled :
    let rehearsal : Updater Script := ⟨{}, Script.backend.rehearsing fun _ script => script⟩
    let e : UpdateError := .block (.empty "LATER")
    roles (ofBytes unfilledFile) =
        [.statement 1 "select", .statement 1 "select# 1;", .skipped, .header (headerOf "DEMO"),
          .row, .header (headerOf "LATER"), .header "BEGIN_TABLE DEMO", .row,
          .statement 9 "select 2"] ∧
      (rehearsal.applyLines .locally (ofBytes unfilledFile) { world := Script.steady }).1 =
        .error e ∧
      FirstViolation (roles (ofBytes unfilledFile)) e := by
  intro rehearsal e
  have hLines : ofBytes unfilledFile = unfilledLines.map .ok := by decide +kernel
  have hVerdict := applyLines_verdict {} Script.backend (fun _ script => script) unfilledFile
    { world := Script.steady }
  rw [hLines] at hVerdict ⊢
  have hError : (rehearsal.applyLines .locally (unfilledLines.map .ok)
      { world := Script.steady }).1 = .error e := by decide +kernel
  exact ⟨by decide +kernel, hError, (hVerdict.2 e).mp hError⟩

end Updater

end ValidityTables
