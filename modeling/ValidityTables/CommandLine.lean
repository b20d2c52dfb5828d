import ValidityTables.CommandLine.Arguments
import ValidityTables.CommandLine.Confirm
import ValidityTables.Config.Reader
import ValidityTables.Updater.Open

/-!
# The command line

Applies an update file, or drops a table after asking. What goes wrong is reported on one line with
its causes, and the exit code is then one; it is two if the arguments make no sense.
-/

namespace ValidityTables.CommandLine

structure Outcome where
  exitCode : Nat
  stdout : String
  stderr : String
  deriving DecidableEq, Repr

abbrev Failure : Type := List String

def exitCode : Except Failure Unit → Nat
  | .ok () => 0
  | .error _ => 1

structure Console (σ : Type) where
  print : String → σ → σ
  takeInput : σ → List UInt8 × σ

def hostConsole : Console Host where
  print := Host.print
  takeInput := Host.takeInput

abbrev Step (σ : Type) (α : Type) : Type := ExceptT Failure (StateM (Session σ)) α

/-- Makes a failed action fail with its causes, after the given contexts. -/
def within {σ α : Type} (contexts : List String) (action : Action σ α) : Step σ α :=
  fun session =>
    match action session with
    | (.ok a, session) => (.ok a, session)
    | (.error e, session) => (.error (contexts ++ e.causes), session)

section Dialogue

variable {σ : Type} (console : Console σ)

def say (text : String) : Step σ Unit := modify fun session =>
  { session with world := console.print text session.world }

def takeLines : Step σ (List (List UInt8)) := do
  let session ← get
  let (input, world) := console.takeInput session.world
  set { session with world }
  return Text.byteLines input

def ask (question : String) (lines : List (List UInt8)) : Step σ (Bool × List (List UInt8)) := do
  let confirmation := confirm lines
  say console (String.join (List.replicate confirmation.asked (prompt question)))
  match confirmation.answer with
  | .ok answer => return (answer, confirmation.unread)
  | .error fault => throw [fault.message]

def askToDrop (name : String) : Step σ (Bool × List (List UInt8)) := do
  ask console ("Do you really want to drop table " ++ name ++ "?") (← takeLines console)

def askAgain (updater : Updater σ) (name : String) (unread : List (List UInt8)) : Step σ Bool := do
  if !(← within [] updater.isAuthorising) then return true
  let question :=
    "This is an authorising database, do you REALLY want to drop table " ++ name ++ "?"
  return (← ask console question unread).1

def confirmDrop (updater : Updater σ) (name : String) : Step σ Bool := do
  let (first, unread) ← askToDrop console name
  if first then askAgain console updater name unread else return false

def dropTable (updater : Updater σ) (name : String) : Step σ Unit := do
  if ← confirmDrop console updater name then
    let report ← within [] (updater.dropTable name)
    report.dropped.forM fun table => say console ("Dropped table " ++ table ++ "\n")
    report.clearedSequenceTables.forM fun table =>
      say console ("Removed " ++ name ++ " entries from " ++ table ++ "\n")
  else
    say console ("Table " ++ name ++ " not dropped\n")

end Dialogue

def applyFile (updater : Updater Host) (scope : Scope) (file : String) : Step Host Unit := do
  let session ← get
  let (source, world) := Updater.fileSource file session.world
  set { session with world }
  discard (within ["applying " ++ file] (updater.applySource scope source))

def perform (updater : Updater Host) (command : Command) : Step Host Unit :=
  match command with
  | .applyGlobally file => applyFile updater .globally file
  | .applyLocally file => applyFile updater .locally file
  | .dropTable name => dropTable hostConsole updater name

def Command.isLocalUpdate : Command → Bool
  | .applyLocally _ => true
  | _ => false

def fileSettings (options : Options) (host : Host) : Except Failure Config × Host :=
  match options.configFile with
  | none => (.ok {}, host)
  | some file =>
    let (content, host) := host.readFile file
    match Config.load file content with
    | .ok config => (.ok config, host)
    | .error e => (.error (("loading config " ++ file) :: e.causes), host)

def settings (options : Options) (host : Host) : Except Failure Config × Host :=
  let (config, host) := fileSettings options host
  (config.map fun config => { config with
    convertUnsigned := config.convertUnsigned || options.convertUnsigned
    temporaryTables := config.temporaryTables || options.temporaryTables }, host)

def execute (invocation : Invocation) (host : Host) : Except Failure Unit × Host :=
  let options := invocation.options
  if options.temporaryTables && !invocation.command.isLocalUpdate then
    (.error ["--temporary-tables can only be used with apply_local_update"], host)
  else match settings options host with
    | (.error failure, host) => (.error failure, host)
    | (.ok config, host) =>
      match Updater.openRun config host with
      | (.error e, session) => (.error e.causes, session.world)
      | (.ok updater, session) =>
        let (result, session) := perform updater invocation.command session
        (result, session.world)

def Command.file? : Command → Option String
  | .applyGlobally file | .applyLocally file => some file
  | .dropTable _ => none

def filesNamed (invocation : Invocation) : List String :=
  invocation.options.configFile.toList ++ invocation.command.file?.toList

def programsNamed (invocation : Invocation) (host : Host) : List String :=
  match (settings invocation.options host).1 with
  | .ok config => [config.clientProgram, config.allocatorProgram]
  | .error _ => []

def usage : String :=
  "usage: [--convert-unsigned] [--temporary-tables] [--debug] [--config FILE] COMMAND\n\n" ++
  "commands:\n" ++
  "  apply_global_update FILE  apply an update with globally unique sequence numbers\n" ++
  "  apply_local_update FILE   apply an update with sequence numbers local to the database\n" ++
  "  drop_table NAME           drop a table and its VLD table and forget its sequence numbers\n"

def Outcome.ofRefusal : Refusal → Outcome
  | .helpAsked => { exitCode := 0, stdout := usage, stderr := "" }
  | .misused => { exitCode := 2, stdout := "", stderr := usage }

def runInvocation (invocation : Invocation) (host : Host) : Outcome :=
  let (result, host) := execute invocation host
  { exitCode := exitCode result
    stdout := host.output
    stderr := match result with
      | .ok () => ""
      | .error failure => "error: " ++ ": ".intercalate failure ++ "\n" }

def run (arguments : List String) (host : Host) : Outcome :=
  match Invocation.read arguments with
  | .error refusal => .ofRefusal refusal
  | .ok invocation => runInvocation invocation host

end ValidityTables.CommandLine
