import ValidityTables.Header.Parse
import ValidityTables.Rows
import ValidityTables.Session

/-!
# Blocks

A block is a header and the rows that follow it. It is begun from a header line, takes rows while it
is ready, and is applied once. A block whose header was refused, and one that was applied, whether
that succeeded or failed, never changes again.
-/

namespace ValidityTables

structure BlockSettings where
  scope : Scope
  convertUnsigned : Bool := false
  maxValuesBytes : Nat := 2000
  deriving DecidableEq, Repr

structure BlockReport where
  table : String
  seqno : UInt32
  rows : Nat
  insertStatements : Nat
  convertedUnsigned : Nat
  createdValidityTable : Bool
  deriving DecidableEq, Repr

/-- Where a block stands. A failed block has a sequence number if it failed after acquiring one. -/
inductive Stage
  | refused (reason : BlockError)
  | ready (header : Header) (rows : Rows)
  | applied (header : Header) (rows : Rows) (seqno : UInt32)
  | failed (header : Header) (rows : Rows) (seqno : Option UInt32)
  deriving DecidableEq, Repr

structure Block where
  settings : BlockSettings
  stage : Stage
  deriving DecidableEq, Repr

namespace Stage

def header? : Stage → Option Header
  | .refused _ => none
  | .ready header _ | .applied header _ _ | .failed header _ _ => some header

def rows : Stage → Rows
  | .refused _ => {}
  | .ready _ rows | .applied _ rows _ | .failed _ rows _ => rows

def seqno? : Stage → Option UInt32
  | .refused _ | .ready _ _ => none
  | .applied _ _ seqno => some seqno
  | .failed _ _ seqno => seqno

def refusal? : Stage → Option BlockError
  | .refused reason => some reason
  | _ => none

def isFailed : Stage → Bool
  | .refused _ | .failed _ _ _ => true
  | _ => false

def isApplied : Stage → Bool
  | .applied _ _ _ => true
  | _ => false

def name : Stage → String
  | .ready _ _ => "Ready"
  | .applied _ _ _ => "Applied"
  | .refused _ | .failed _ _ _ => "Failed"

end Stage

namespace Block

variable {σ : Type}

/-- Begins a block. A header line that is refused gives a block too; only a store that cannot be
asked is an error. -/
def begin (backend : Backend σ) (settings : BlockSettings) (line : String) : Action σ Block := do
  match Header.parse line with
  | .error reason => return { settings, stage := .refused reason }
  | .ok header =>
    if !(← backend.tableExists header.table) then
      return { settings, stage := .refused (.tableNotFound header.table) }
    else match header.checkDates line with
      | .error reason => return { settings, stage := .refused reason }
      | .ok () => return { settings, stage := .ready header {} }

/-- Adds a row. A failed block drops it and an applied one refuses it. -/
def addRow (block : Block) (line : String) : Except UpdateError Block :=
  match block.stage with
  | .ready header rows =>
    .ok { block with stage := .ready header (rows.push block.settings.convertUnsigned line) }
  | .refused _ | .failed _ _ _ => .ok block
  | .applied header _ _ => .error (.block (.closed header.table))

def canApply (block : Block) : Bool :=
  match block.stage with
  | .ready _ rows => !rows.isEmpty
  | _ => false

/-- Creates the table of validity rows of a header if it is missing, and tells whether it was. The
statement is not repeated within an ephemeral run, even if it fails. -/
def ensureValidityTable (backend : Backend σ) (header : Header) : Action σ Bool := do
  if ← backend.validityTableMissing header.validityTable then
    backend.noteValidityTable header.validityTable
    discard (backend.query (Statement.createValidityTable backend.createKeyword header))
    return true
  else
    return false

def runAll (backend : Backend σ) : List String → Action σ Unit
  | [] => pure ()
  | sql :: rest => do
    discard (backend.query sql)
    runAll backend rest

/-- Runs the statements that store a block under a sequence number. If one fails, what is stored
under the number is removed. -/
def store (backend : Backend σ) (table : String) (seqno : UInt32) (statements : List String) :
    Action σ Unit :=
  tryCatch (runAll backend statements) fun e => do
    backend.removeSeqno table seqno
    throw e

def applicationError (header : Header) (source : UpdateError) : UpdateError :=
  .applyFailed header.table header.validFrom header.validTo source

def applyReady (backend : Backend σ) (settings : BlockSettings) (inserted : String)
    (header : Header) (rows : Rows) :
    StateM (Session σ) (Except UpdateError BlockReport × Stage) := do
  match ← (ensureValidityTable backend header).run with
  | .error e => return (.error (applicationError header e), .failed header rows none)
  | .ok createdValidityTable =>
    match ← (backend.acquireSeqno header.table settings.scope).run with
    | .error e => return (.error (applicationError header e), .failed header rows none)
    | .ok seqno =>
      let inserts :=
        Statement.insertRows header.table seqno rows.toList settings.maxValuesBytes
      let statements := inserts ++ [Statement.insertValidityRow header seqno inserted]
      match ← (store backend header.table seqno statements).run with
      | .error e => return (.error (applicationError header e), .failed header rows (some seqno))
      | .ok () =>
        return (.ok {
          table := header.table
          seqno
          rows := rows.size
          insertStatements := inserts.length
          convertedUnsigned := rows.converted
          createdValidityTable }, .applied header rows seqno)

/-- Applies a block with a given date of insertion. A block without rows stays as it is and may be
applied later; a block that was applied before, or refused, is refused again. -/
def applyAt (backend : Backend σ) (inserted : String) (block : Block) :
    StateM (Session σ) (Except UpdateError BlockReport × Block) :=
  match block.stage with
  | .refused reason => pure (.error (.block reason), block)
  | .ready header rows =>
    if rows.isEmpty then pure (.error (.block (.empty header.table)), block)
    else do
      let (result, stage) ← applyReady backend block.settings inserted header rows
      return (result, { block with stage })
  | .applied header _ _ | .failed header _ _ => pure (.error (.block (.closed header.table)), block)

def apply (backend : Backend σ) (block : Block) :
    StateM (Session σ) (Except UpdateError BlockReport × Block) := do
  applyAt backend (← backend.now) block

end Block

end ValidityTables
