import ValidityTables.Host.Signal
import ValidityTables.Shell.Builtins.Variables

/-!
# Control

Built-in commands that leave loops, functions and the shell, and those that send signals and say
what is done when one comes.
-/

namespace ValidityTables.Shell.Builtins.Control

open Run

def leave (jump : Nat → Jump) : Builtin := fun arguments => do
  let count ← match arguments with
    | [] => pure 1
    | count :: _ => natural count
  if count = 0 then failNumber (arguments.head?.getD [])
  let loops := (← get).loops
  if loops > 0 then modify fun state => { state with jump := jump (min count loops) }
  return 0

def leaveFunction : Builtin := fun arguments => do
  match arguments with
  | [] => do
    modify fun state => { state with jump := .leaveFunction false }
    return (← get).status
  | status :: _ => do
    let status ← natural status
    modify fun state => { state with jump := .leaveFunction true }
    return status

def exit : Builtin := fun arguments => do
  if let status :: _ := arguments then
    let status ← natural status
    modify fun state => { state with savedStatus := some status }
  throw .exit

def showTraps : Run Unit := do
  let traps := (← get).traps.mergeSort fun a b => a.1 ≤ b.1
  traps.forM fun (signal, action) =>
    printLine ("trap -- ".toList ++ Variables.quote action ++ ' ' :: Signal.name signal)

/-- Says what is done for signals, where nothing means what is usual; the status is one if there is
no such signal. -/
def setTraps (action : Option Octets) : List Octets → Run Nat
  | [] => return 0
  | text :: rest => do
    match Signal.ofText? 0 text with
    | none => do
      discard (write 2 ("trap: ".toList ++ text ++ ": bad trap\n".toList))
      return 1
    | some signal => do
      modify fun state => { state with traps := match action with
        | some action => assign signal action state.traps
        | none => unassign signal state.traps }
      setTraps action rest

def trap : Builtin := fun arguments => do
  match ← dropOptions arguments with
  | [] => do
    showTraps
    return 0
  | [signal] => setTraps none [signal]
  | action :: signals =>
    if !action.isEmpty && action.all Char.isDigit && (Signal.ofText? 0 action).isSome then
      setTraps none (action :: signals)
    else setTraps (if action = ['-'] then none else some action) signals

def isKnown (state : State) (process : Nat) : Bool :=
  process = state.process || (state.ancestors ++ state.parents).contains process ||
    state.jobs.any (·.process = process)

def sendTo (signal : Nat) : List Octets → Run Nat
  | [] => return 0
  | text :: rest => do
    let process ← natural text
    let state ← get
    let known := isKnown state process
    if !known then warn (SystemFault.noProcess.text.toList ++ ['\n'])
    else if signal != 0 && !state.jobs.any (·.process = process) then
      modify fun state => { state with world := state.world.send process signal }
    let others ← sendTo signal rest
    return if known then others else 1

def failUsage {α : Type} : Run α :=
  fail ("Usage: kill [-s sigspec | -signum | -sigspec] [pid | job]... or\n" ++
    "kill -l [exitstatus]").toList

def listSignals : List Octets → Run Nat
  | [] => do
    printLine ['0']
    (List.range' 1 Signal.last).forM fun signal => printLine (Signal.name signal)
    return 0
  | text :: _ => do
    let number ← natural text
    let signal := if number > 128 then number - 128 else number
    if signal = 0 ∨ signal > Signal.last then
      fail ("invalid signal number or exit status: ".toList ++ text)
    printLine (Signal.name signal)
    return 0

def signalOption (text : Octets) : Run Nat := do
  match Signal.ofText? 1 text with
  | some signal => return signal
  | none => fail ("invalid signal number or name: ".toList ++ text)

def kill : Builtin := fun arguments => do
  match arguments with
  | [] => failUsage
  | ('-' :: text) :: rest =>
    match Signal.ofText? 1 text with
    | some signal => if rest.isEmpty then failUsage else sendTo signal rest
    | none => do
      let (options, rest) ← readOptions [('l', false), ('s', true)] arguments
      let signals ← (options.filter (·.1 = 's')).mapM fun option => signalOption option.2
      let lists := options.any (·.1 = 'l')
      match signals.getLast?, lists, rest with
      | none, true, _ => listSignals rest
      | some _, true, _ | _, false, [] => failUsage
      | signal, false, _ => sendTo (signal.getD Signal.terminate) rest
  | _ => sendTo Signal.terminate arguments

/-- Waits for commands in the background, which are done already. -/
def wait : Builtin := fun arguments => do
  match ← dropOptions arguments with
  | [] => do
    modify fun state => { state with jobs := state.jobs.map ({ · with waited := true }) }
    return 0
  | arguments => do
    let statuses ← arguments.mapM fun argument => do
      if argument.head? = some '%' then
        fail ("No such job: ".toList ++ argument)
      let process ← natural argument
      match (← get).jobs.find? (·.process = process) with
      | some job => do
        modify fun state => { state with jobs := state.jobs.map fun other =>
          if other = job then { job with waited := true } else other }
        return job.status
      | none => return 127
    return statuses.getLast?.getD 0

def showTimes : Builtin := fun _ => do
  let line := "0m0.000000s 0m0.000000s".toList
  printLine line
  printLine line
  return 0

end ValidityTables.Shell.Builtins.Control
