import ValidityTables.Config
import ValidityTables.UpdateFile

/-!
# The updater

A run with its settings: it applies update files and drops tables. An update whose sequence numbers
are unique in all stores is only made through an authorising store.
-/

namespace ValidityTables

structure Updater (σ : Type) where
  config : Config
  backend : Backend σ

structure DropReport where
  dropped : List String := []
  clearedSequenceTables : List String := []
  deriving DecidableEq, Repr

namespace Updater

variable {σ : Type}

def withBackend (config : Config) (backend : Backend σ) : Except UpdateError (Updater σ) :=
  match config.validate with
  | .error e => .error e
  | .ok () => .ok { config, backend }

def blockSettings (config : Config) (scope : Scope) : BlockSettings where
  scope
  convertUnsigned := config.convertUnsigned
  maxValuesBytes := config.maxValuesBytes

variable (updater : Updater σ)

/-- Whether the store may hand out numbers that are unique in all stores. -/
def isAuthorising : Action σ Bool := updater.backend.tableExists globalSequenceTable

/-- Refuses numbers that are unique in all stores where they cannot be had. -/
def checkScope (scope : Scope) : Action σ Unit :=
  match scope, updater.backend.mode with
  | .locally, _ => pure ()
  | .globally, .ephemeral =>
    throw (.invalidConfig "temporary tables mode only supports local updates")
  | .globally, .durable => do
    if !(← updater.isAuthorising) then
      throw .notAuthorising

/-- Applies an update file, unless it cannot be opened. The scope is checked first. -/
def applySource (scope : Scope) (source : Except IoFault (List SourceLine)) :
    Action σ ApplyReport := do
  updater.checkScope scope
  match source with
  | .error fault => throw (.io fault)
  | .ok lines => UpdateFile.apply updater.backend (blockSettings updater.config scope) lines

def applyLines (scope : Scope) (lines : List SourceLine) : Action σ ApplyReport :=
  updater.applySource scope (.ok lines)

def dropExisting : List String → Action σ (List String)
  | [] => return []
  | table :: rest => do
    if ← updater.backend.tableExists table then
      discard (updater.backend.query (Statement.dropTable table))
      return table :: (← dropExisting rest)
    else
      dropExisting rest

def clearExisting (name : String) : List String → Action σ (List String)
  | [] => return []
  | table :: rest => do
    if ← updater.backend.tableExists table then
      discard (updater.backend.query (Statement.deleteSequenceEntries table name))
      return table :: (← clearExisting name rest)
    else
      clearExisting name rest

/-- Drops a table with its table of validity rows, and then forgets its sequence numbers. -/
def dropTable (name : String) : Action σ DropReport :=
  match updater.backend.mode with
  | .ephemeral => throw (.invalidConfig "drop_table is not available in temporary tables mode")
  | .durable => do
    let dropped ← updater.dropExisting [name, validityTable name]
    let clearedSequenceTables ←
      updater.clearExisting name [localSequenceTable, globalSequenceTable]
    return { dropped, clearedSequenceTables }

end Updater

end ValidityTables
