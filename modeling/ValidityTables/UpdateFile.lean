import ValidityTables.Block

/-!
# Update files

An update file is read line by line. Blank lines and comments are skipped, a raw statement is
collected until it ends with a semicolon and is then run, a header line begins a block, and any
other line is a row of the block that is open. A block is applied when the next header or the end of
the file is reached. The first error ends the file; what was applied before it stays.
-/

namespace ValidityTables

abbrev SourceLine : Type := Except IoFault String

inductive LineKind
  | skipped
  | statement (text : String)
  | header
  | row
  deriving DecidableEq, Repr

namespace LineKind

open Text

def statementMarker : List Char := ['S', 'Q', 'L']

/-- The text of a raw statement after its marker, which stands alone or before a blank. -/
def statement? (cs : List Char) : Option (List Char) :=
  match Header.dropMarker? statementMarker cs with
  | none => none
  | some [] => some []
  | some (c :: rest) => if isBlank c then some (trim rest) else none

def ofLine (line : String) : LineKind :=
  let cs := trim line.toList
  match cs with
  | [] => .skipped
  | '#' :: _ => .skipped
  | _ =>
    match statement? cs with
    | some text => .statement (String.ofList text)
    | none => if Header.marker.isPrefixOf cs then .header else .row

end LineKind

inductive ApplyStatus
  | applied
  | noTableData
  deriving DecidableEq, Repr

def ApplyStatus.name : ApplyStatus → String
  | .applied => "Applied"
  | .noTableData => "NoTableData"

/-- What an applied file did: how many raw statements it ran, and its blocks in order. -/
structure ApplyReport where
  sqlStatements : Nat := 0
  blocks : List BlockReport := []
  deriving DecidableEq, Repr

namespace ApplyReport

def status (report : ApplyReport) : ApplyStatus :=
  if report.blocks.isEmpty then .noTableData else .applied

def blocksApplied (report : ApplyReport) : Nat := report.blocks.length

def rowsInserted (report : ApplyReport) : Nat :=
  report.blocks.foldl (fun total block => total + block.rows) 0

def seqnos (report : ApplyReport) : List UInt32 := report.blocks.map (·.seqno)

end ApplyReport

namespace UpdateFile

variable {σ : Type}

/-- A raw statement that is being collected: the number of its first line, and the texts of its
lines, last first. -/
structure OpenStatement where
  lineNumber : Nat
  pieces : List String
  deriving DecidableEq, Repr

/-- The statement so far. Its lines are joined without anything between them. -/
def OpenStatement.text (statement : OpenStatement) : String :=
  String.join statement.pieces.reverse

/-- Whether the statement is complete, which shows at the end of its last line. -/
def OpenStatement.isComplete (statement : OpenStatement) : Bool :=
  match statement.pieces with
  | [] => false
  | piece :: _ => piece.toList.getLast? == some ';'

structure Progress where
  lineNumber : Nat := 0
  statement : Option OpenStatement := none
  block : Option Block := none
  sqlStatements : Nat := 0
  blocks : Array BlockReport := #[]
  deriving DecidableEq, Repr

def Progress.report (progress : Progress) : ApplyReport where
  sqlStatements := progress.sqlStatements
  blocks := progress.blocks.toList

def continueStatement (backend : Backend σ) (progress : Progress) (statement : OpenStatement) :
    Action σ Progress := do
  if statement.isComplete then
    discard (backend.query statement.text)
    return { progress with statement := none, sqlStatements := progress.sqlStatements + 1 }
  else
    return { progress with statement := some statement }

def finishBlock (backend : Backend σ) (progress : Progress) : Action σ Progress :=
  match progress.block with
  | none => return progress
  | some block => do
    let (result, _) ← ExceptT.lift (block.apply backend)
    let entry ← ExceptT.mk (pure result)
    return { progress with block := none, blocks := progress.blocks.push entry }

def beginBlock (backend : Backend σ) (settings : BlockSettings) (progress : Progress)
    (line : String) : Action σ Progress := do
  let progress ← finishBlock backend progress
  let block ← Block.begin backend settings line
  match block.stage.refusal? with
  | some reason => throw (.block reason)
  | none => return { progress with block := some block }

def addRow (progress : Progress) (line : String) : Except UpdateError Progress :=
  match progress.block with
  | none => .error (.rowOutsideBlock progress.lineNumber)
  | some block =>
    match block.addRow line with
    | .error e => .error e
    | .ok block => .ok { progress with block := some block }

def takeLine (backend : Backend σ) (settings : BlockSettings) (progress : Progress)
    (line : String) : Action σ Progress :=
  match progress.statement with
  | some statement =>
    continueStatement backend progress
      { statement with pieces := Text.edit Text.trim line :: statement.pieces }
  | none =>
    match LineKind.ofLine line with
    | .skipped => return progress
    | .statement text =>
      continueStatement backend progress { lineNumber := progress.lineNumber, pieces := [text] }
    | .header => beginBlock backend settings progress line
    | .row => ExceptT.mk (pure (addRow progress line))

def finish (backend : Backend σ) (progress : Progress) : Action σ ApplyReport :=
  match progress.statement with
  | some statement => throw (.unterminatedSql statement.lineNumber statement.text)
  | none => do return (← finishBlock backend progress).report

def applyFrom (backend : Backend σ) (settings : BlockSettings) (progress : Progress) :
    List SourceLine → Action σ ApplyReport
  | [] => finish backend progress
  | .error fault :: _ => throw (.io fault)
  | .ok line :: rest => do
    let progress := { progress with lineNumber := progress.lineNumber + 1 }
    applyFrom backend settings (← takeLine backend settings progress line) rest

def apply (backend : Backend σ) (settings : BlockSettings) (lines : List SourceLine) :
    Action σ ApplyReport :=
  applyFrom backend settings {} lines

end UpdateFile

end ValidityTables
