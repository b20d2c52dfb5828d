import ValidityTables.Proofs.Action
import ValidityTables.UpdateFile

/-! # The items of an update file

What an update file holds does not depend on the run: blank lines and comments go, the lines of a
raw statement become one text, and what is left are headers and rows. An update applies these items
one after another, and `apply_eq_run` says that this is what reading the file line by line does. The
run over items also keeps what was reached when an item failed.
-/

namespace ValidityTables.UpdateFile

variable {σ : Type}

inductive Item
  | statement (text : String)
  | header (line : String)
  | row (lineNumber : Nat) (line : String)
  /-- The file cannot be read any further. -/
  | stop (error : UpdateError)
  deriving DecidableEq, Repr

/-- The items of the lines after line `n`, where a raw statement may be open. -/
def itemsFrom (n : Nat) (statement : Option OpenStatement) : List SourceLine → List Item
  | [] =>
    match statement with
    | none => []
    | some statement => [.stop (.unterminatedSql statement.lineNumber statement.text)]
  | .error fault :: _ => [.stop (.io fault)]
  | .ok line :: rest =>
    let collect (statement : OpenStatement) : List Item :=
      if statement.isComplete then .statement statement.text :: itemsFrom (n + 1) none rest
      else itemsFrom (n + 1) (some statement) rest
    match statement with
    | some statement =>
      collect { statement with pieces := Text.edit Text.trim line :: statement.pieces }
    | none =>
      match LineKind.ofLine line with
      | .skipped => itemsFrom (n + 1) none rest
      | .statement text => collect { lineNumber := n + 1, pieces := [text] }
      | .header => .header line :: itemsFrom (n + 1) none rest
      | .row => .row (n + 1) line :: itemsFrom (n + 1) none rest

def items (lines : List SourceLine) : List Item := itemsFrom 0 none lines

/-- What was reached between two items. -/
structure Reached where
  block : Option Block := none
  sqlStatements : Nat := 0
  blocks : Array BlockReport := #[]
  deriving DecidableEq, Repr

namespace Reached

def report (reached : Reached) : ApplyReport where
  sqlStatements := reached.sqlStatements
  blocks := reached.blocks.toList

def close (backend : Backend σ) (reached : Reached) : Action σ Reached :=
  match reached.block with
  | none => pure reached
  | some block => fun session =>
    match block.apply backend session with
    | ((.ok entry, _), session) =>
      (.ok { reached with block := none, blocks := reached.blocks.push entry }, session)
    | ((.error e, _), session) => (.error e, session)

def start (backend : Backend σ) (settings : BlockSettings) (line : String) (reached : Reached) :
    Action σ Reached := do
  let block ← Block.begin backend settings line
  match block.stage.refusal? with
  | some reason => throw (.block reason)
  | none => return { reached with block := some block }

def addRow (lineNumber : Nat) (line : String) (reached : Reached) : Except UpdateError Reached :=
  match reached.block with
  | none => .error (.rowOutsideBlock lineNumber)
  | some block => (block.addRow line).map fun block => { reached with block := some block }

def execute (backend : Backend σ) (text : String) (reached : Reached) : Action σ Reached := do
  discard (backend.query text)
  return { reached with sqlStatements := reached.sqlStatements + 1 }

end Reached

/-- Where a run ended: what it had reached, and the error that ended it, if there was one. -/
structure Stopped where
  reached : Reached
  outcome : Except UpdateError Unit

/-- Goes on from a step, or stops at what was reached before it. -/
def advance (reached : Reached) (step : Action σ Reached)
    (next : Reached → StateM (Session σ) Stopped) : StateM (Session σ) Stopped := fun session =>
  match step session with
  | (.ok reached, session) => next reached session
  | (.error e, session) => (⟨reached, .error e⟩, session)

/-- Applies items one after another, and the last block after them. -/
def run (backend : Backend σ) (settings : BlockSettings) (reached : Reached) :
    List Item → StateM (Session σ) Stopped
  | [] => advance reached (reached.close backend) fun reached => pure ⟨reached, .ok ()⟩
  | .statement text :: rest =>
    advance reached (reached.execute backend text) fun reached => run backend settings reached rest
  | .header line :: rest =>
    advance reached (reached.close backend) fun reached =>
      advance reached (reached.start backend settings line) fun reached =>
        run backend settings reached rest
  | .row n line :: rest =>
    advance reached (fun session => (reached.addRow n line, session)) fun reached =>
      run backend settings reached rest
  | .stop e :: _ => pure ⟨reached, .error e⟩

/-- What a run gives when it has ended. -/
def Stopped.result (stopped : Stopped) : Except UpdateError ApplyReport :=
  stopped.outcome.map fun _ => stopped.reached.report

theorem Stopped.result_ok {stopped : Stopped} {report : ApplyReport}
    (h : stopped.result = .ok report) :
    stopped.outcome = .ok () ∧ report.blocks = stopped.reached.blocks.toList := by
  unfold Stopped.result at h
  cases hOutcome : stopped.outcome with
  | error e => rw [hOutcome] at h; cases h
  | ok _ => rw [hOutcome] at h; cases h; exact ⟨rfl, rfl⟩

def Progress.reached (progress : Progress) : Reached where
  block := progress.block
  sqlStatements := progress.sqlStatements
  blocks := progress.blocks

/-- The progress that has reached something else, at the same place of the file. -/
def Progress.set (progress : Progress) (reached : Reached) : Progress :=
  { progress with
    block := reached.block, sqlStatements := reached.sqlStatements, blocks := reached.blocks }

variable (backend : Backend σ) (settings : BlockSettings)

theorem finishBlock_apply (progress : Progress) (session : Session σ) :
    finishBlock backend progress session =
      ((progress.reached.close backend session).1.map progress.set,
        (progress.reached.close backend session).2) := by
  obtain ⟨n, statement, block, count, blocks⟩ := progress
  cases block with
  | none => rfl
  | some block =>
    simp only [finishBlock, Action.bind_apply, Action.lift_apply, Progress.reached, Reached.close]
    rcases block.apply backend session with ⟨⟨_ | _, _⟩, _⟩ <;> rfl

theorem beginBlock_apply (progress : Progress) (line : String) (session : Session σ) :
    beginBlock backend settings progress line session =
      match progress.reached.close backend session with
      | (.error e, session) => (.error e, session)
      | (.ok reached, session) =>
        ((reached.start backend settings line session).1.map progress.set,
          (reached.start backend settings line session).2) := by
  rw [beginBlock, Action.bind_apply, finishBlock_apply]
  rcases progress.reached.close backend session with ⟨_ | reached, middle⟩
  · rfl
  · simp only [Except.map, Reached.start, Action.bind_apply]
    rcases Block.begin backend settings line middle with ⟨_ | block, after⟩
    · rfl
    · simp only
      cases block.stage.refusal? <;> rfl

theorem continueStatement_apply (progress : Progress) (statement : OpenStatement)
    (session : Session σ) :
    continueStatement backend progress statement session =
      if statement.isComplete then
        ((progress.reached.execute backend statement.text session).1.map
            fun reached => { progress.set reached with statement := none },
          (progress.reached.execute backend statement.text session).2)
      else (.ok { progress with statement := some statement }, session) := by
  unfold continueStatement
  split
  · simp only [Action.bind_apply, Reached.execute]
    rcases discard (backend.query statement.text) session with ⟨_ | _, _⟩ <;> rfl
  · rfl

theorem addRow_eq (progress : Progress) (line : String) :
    UpdateFile.addRow progress line =
      (progress.reached.addRow progress.lineNumber line).map progress.set := by
  obtain ⟨n, statement, block, count, blocks⟩ := progress
  cases block with
  | none => rfl
  | some block =>
    simp only [addRow, Progress.reached, Reached.addRow]
    cases block.addRow line <;> rfl

theorem continueStatement_eq_run {rest : List SourceLine}
    (hRest : ∀ (progress : Progress) (session : Session σ),
      applyFrom backend settings progress rest session =
        let ended := run backend settings progress.reached
          (itemsFrom progress.lineNumber progress.statement rest) session
        (ended.1.result, ended.2))
    (statement : OpenStatement) (next : Progress) (session : Session σ) :
    (continueStatement backend next statement >>= (applyFrom backend settings · rest)) session =
      let ended := run backend settings next.reached
        (if statement.isComplete then
          .statement statement.text :: itemsFrom next.lineNumber none rest
        else itemsFrom next.lineNumber (some statement) rest) session
      (ended.1.result, ended.2) := by
  rw [Action.bind_apply, continueStatement_apply]
  cases hComplete : statement.isComplete
  · exact hRest _ session
  · simp only [if_true, run, advance]
    rcases next.reached.execute backend statement.text session with ⟨_ | reached, after⟩
    · rfl
    · exact hRest _ after

/-- Reading on line by line does what applying the remaining items does. -/
theorem applyFrom_eq_run (lines : List SourceLine) (progress : Progress) (session : Session σ) :
    applyFrom backend settings progress lines session =
      let ended := run backend settings progress.reached
        (itemsFrom progress.lineNumber progress.statement lines) session
      (ended.1.result, ended.2) := by
  induction lines generalizing progress session with
  | nil =>
    obtain ⟨n, statement, block, count, blocks⟩ := progress
    cases statement with
    | some statement => rfl
    | none =>
      simp only [applyFrom, finish, Action.bind_apply, finishBlock_apply, itemsFrom, run, advance]
      rcases Reached.close backend _ session with ⟨_ | reached, after⟩ <;> rfl
  | cons line rest ih =>
    cases line with
    | error fault => rfl
    | ok line =>
      obtain ⟨n, statement, block, count, blocks⟩ := progress
      rw [applyFrom]
      -- An open statement takes the line, whatever the line looks like.
      cases statement with
      | some statement => exact continueStatement_eq_run backend settings ih _ _ session
      | none =>
        simp only [takeLine, itemsFrom]
        cases LineKind.ofLine line with
        | skipped => exact ih _ session
        | statement text => exact continueStatement_eq_run backend settings ih _ _ session
        | header =>
          simp only [Action.bind_apply, beginBlock_apply, Progress.reached, run, advance]
          rcases Reached.close backend _ session with ⟨_ | reached, middle⟩
          · rfl
          · simp only
            rcases Reached.start backend settings line reached middle with ⟨_ | reached, after⟩
            · rfl
            · exact ih _ after
        | row =>
          simp only [Action.bind_apply, Action.mk_pure_apply, addRow_eq, Progress.reached, run,
            advance]
          rcases Reached.addRow (n + 1) line _ with _ | reached
          · rfl
          · exact ih _ session

theorem apply_eq_run (lines : List SourceLine) (session : Session σ) :
    UpdateFile.apply backend settings lines session =
      let ended := run backend settings {} (items lines) session
      (ended.1.result, ended.2) :=
  applyFrom_eq_run backend settings lines {} session

end ValidityTables.UpdateFile
