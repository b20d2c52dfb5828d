import ValidityTables.Host.Signal
import ValidityTables.Shell.State

/-!
# Scripts

How the commands of a text or of a channel are run one after the other, what is done for signals,
and how a shell ends.
-/

namespace ValidityTables.Shell

abbrev Evaluate : Type := Command → Role → Run Nat

structure Script where
  source : Source
  channel : Option Nat := none

namespace Script

open Run

def ofText (text : Octets) : Script := { source := .ofText text 0 }

def ofChannel (id : Nat) : Script := { source := .ofText [] 0, channel := some id }

def blockSize : Nat := 8191

def lineLimit : Nat := 1000000000

def refill (script : Script) : Run (Option Script) := do
  let state ← get
  match script.channel with
  | none => return none
  | some id =>
    match state.world.unread id with
    | .error _ | .ok [] => return none
    | .ok text => do
      let block := text.take blockSize
      set { state with world := state.world.skip id block.length }
      let source := script.source
      return some { script with
        source := { source with unread := source.unread ++ block.filter (· != '\x00') } }

def parse (script : Script) : Run (Except SyntaxError (ScriptLine × Bool) × Source) := do
  let state ← get
  let source := { script.source with
    bound := script.source.unread.length + 2
    aliases := state.aliases
    documents := []
    nextDocument := state.nextDocument }
  return (ExceptT.run readLine).run source

/-- Reads the commands of the next line, and whether the script ends with them. More of the text is
read as long as the line is not complete; `bound` limits how often. -/
def readNext : Nat → Script → Run (ScriptLine × Bool × Script)
  | 0, script => return (.finished, true, script)
  | bound + 1, script => do
    let (result, source) ← parse script
    let more ← if source.unread.isEmpty then refill script else pure none
    match more, result with
    | some script, _ => readNext bound script
    | none, .error e => do
      setStatus 2
      warnAt e.line ("Syntax error: ".toList ++ e.message.toList)
      throw .fault
    | none, .ok (line, atEnd) => do
      modify fun state => { state with
        reached := source.line :: state.reached.drop 1
        documents := source.documents ++ state.documents
        nextDocument := source.nextDocument }
      return (line, atEnd, { script with source })

/-- Runs commands until there are no more, or until a jump leaves them. The status is that of the
last command, or zero if there is none. -/
def runFrom (evaluate : Evaluate) (role : Role) (status : Nat) : Nat → Script → Run Nat
  | 0, _ => return status
  | bound + 1, script => do
    let (line, atEnd, after) ← readNext lineLimit script
    if (← get).hasOption 'v' && script.channel.isSome then
      let read := script.source.unread.length - after.source.unread.length
      discard (write 2 (script.source.unread.take read))
    match line with
    | .finished => return status
    | .blank => runFrom evaluate role status bound after
    | .command command => do
      let status ← evaluate command { role with last := role.last && atEnd }
      if (← get).jump != .none then return status
      runFrom evaluate role status bound after

def run (evaluate : Evaluate) (role : Role) (script : Script) : Run Nat :=
  runFrom evaluate role 0 lineLimit script

def runApart (evaluate : Evaluate) (role : Role) (script : Script) : Run Nat := do
  let reached := (← get).reached
  modify fun state => { state with reached := 1 :: reached }
  let result ← attempt (run evaluate role script)
  modify fun state => { state with reached }
  match result with
  | .ok status => return status
  | .error stop => throw stop

def runText (evaluate : Evaluate) (role : Role) (text : Octets) : Run Nat :=
  runApart evaluate role (ofText text)

/-- A jump out of a function ends at the end of a file. -/
def endFile : Run Unit := modify fun state => { state with jump := match state.jump with
  | .leaveFunction _ => .none
  | jump => jump }

def runFile (evaluate : Evaluate) (id : Nat) : Run Nat := do
  let status ← runApart evaluate {} (ofChannel id)
  endFile
  return status

def runInput (evaluate : Evaluate) (id : Nat) : Run Nat := do
  let status ← run evaluate {} (ofChannel id)
  endFile
  return status

end Script

namespace Run

/-- Takes notice of the signals that were sent to the shell. One for which nothing is arranged can
end it. -/
def noticeSignals : Run Unit := do
  let state ← get
  let (signals, world) := state.world.takeSignals state.process
  set { state with world }
  signals.forM fun signal =>
    match if signal = Signal.kill then none else state.traps.lookup signal with
    | some action =>
      if action.isEmpty then pure ()
      else modify fun state => { state with signals := signal :: state.signals }
    | none => if Signal.ends signal then throw (.ended (.signalled signal)) else pure ()

/-- Does what is arranged for one signal; the status stays what it was, unless a function is left
with another one. -/
def performTrap (evaluate : Evaluate) (status signal : Nat) : Run Unit := do
  if (← get).jump != .none then return
  modify fun state => { state with signals := state.signals.filter (· != signal) }
  match (← get).traps.lookup signal with
  | none => return
  | some action => do
    discard (Script.runText evaluate {} action)
    if (← get).jump != .leaveFunction true then setStatus status

def performTraps (evaluate : Evaluate) : Run Unit := do
  let state ← get
  if state.signals.isEmpty then return
  let status := state.savedStatus.getD state.status
  set { state with savedStatus := some status }
  (state.signals.mergeSort (· ≤ ·)).forM (performTrap evaluate status)
  modify fun after => { after with savedStatus := state.savedStatus }

def reset (exiting : Bool) : Run Unit := modify fun state => { state with
  status := match state.savedStatus with
    | some status =>
      if exiting || state.jump == .leaveFunction false then status else state.status
    | none => state.status
  savedStatus := none
  jump := .none
  loops := 0
  tracing := false }

/-- Ends the shell after it stopped, or when it has nothing left to do: what is arranged for the
exit is done, and the status stays what it was, unless that exits with another one. -/
def endShell (evaluate : Evaluate) (result : Except Stop Nat) : Run Ending := do
  match result with
  | .error (.ended ending) => return ending
  | .error stop => reset (stop == .exit)
  | .ok _ => pure ()
  modify fun state => { state with savedStatus := some state.status }
  match (← get).traps.lookup 0 with
  | none => reset true
  | some action => do
    modify fun state => { state with traps := unassign 0 state.traps, jump := .none }
    match ← attempt (Script.runText evaluate {} action) with
    | .error (.ended ending) => return ending
    | .error stop => reset (stop == .exit)
    | .ok _ => reset true
  return .exited ((← get).status % 256)

def complete (evaluate : Evaluate) (body : Run Nat) (state : State) : Ending × State :=
  let whole : Run Ending := do endShell evaluate (← attempt body)
  match whole state with
  | (.ok ending, state) => (ending, state)
  | (.error (.ended ending), state) => (ending, state)
  | (.error _, state) => (.exited (state.status % 256), state)

def dropWaited (jobs : List Job) : List Job :=
  match jobs.reverse.find? (·.waited) with
  | some job => jobs.erase job
  | none => jobs

/-- Runs something in a copy of the shell, which gets a number of its own. -/
def inChild (evaluate : Evaluate) (body : Run Nat) : Run (Nat × Ending) := do
  let state ← get
  let (process, world) := state.world.start
  let state := { state with jobs := dropWaited state.jobs }
  let (ending, child) := complete evaluate body { state with
    world, process
    ancestors := state.process :: state.ancestors
    traps := state.traps.filter (·.2.isEmpty)
    signals := []
    reached := state.reached.drop (state.reached.length - 1)
    printed := []
    jobs := [] }
  set { state with world := child.world }
  return (process, ending)

def statusOf : Ending → Run Nat
  | .exited status => return status
  | .signalled signal => do
    if signal != Signal.interrupt && signal != Signal.pipe then
      discard (write 2 (Signal.description signal ++ ['\n']))
    return 128 + signal

def waitFor (ending : Ending) : Run Nat := do
  let status ← statusOf ending
  noticeSignals
  return status

end Run

end ValidityTables.Shell
