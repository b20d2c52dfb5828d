import ValidityTables.Host.World
import ValidityTables.Shell.Grammar

/-!
# The state of a shell

What a shell keeps while it runs: its variables, functions, arguments and options, its descriptors
and traps, and how far it has got. A subshell starts with a copy of everything but the world, which
it shares.
-/

namespace ValidityTables.Shell

structure Variable where
  value : Option Octets := none
  exported : Bool := false
  readOnly : Bool := false
  deriving DecidableEq, Repr

inductive Jump
  | none
  | leaveLoops (count : Nat)
  | continueLoop (count : Nat)
  /-- The rest of a function or of a file, with a status of its own or that of the last command. -/
  | leaveFunction (hasStatus : Bool)
  deriving DecidableEq, Repr

inductive Stop
  | exit
  /-- Its last command is done, or failed where that ends the shell. -/
  | finish
  /-- An error ends the command, and where nothing goes on after it, the shell. -/
  | fault
  /-- The shell is gone: another program took its place, or a signal ended it. -/
  | ended (ending : Ending)
  deriving DecidableEq, Repr

structure Role where
  /-- Its status decides what is done next, so that a failure of it is no surprise. -/
  tested : Bool := false
  last : Bool := false
  deriving DecidableEq, Repr

/-- What the option reader of scripts keeps in mind: the argument that is next, and the letters of
the current one that were read. -/
structure OptionPosition where
  argument : Nat := 1
  letters : Option Nat := none
  deriving DecidableEq, Repr

/-- What was hidden by a level of local variables: what they were before, and the letters of the
options, if these are local too. -/
structure Hidden where
  bindings : List (Octets × Option Variable) := []
  options : Option (List Char) := none

/-- A command in the background, which is done. -/
structure Job where
  process : Nat
  status : Nat
  waited : Bool := false
  deriving DecidableEq, Repr

structure State where
  world : World
  descriptors : List (Nat × Nat)
  directory : Place
  path : Octets
  bindings : List (Octets × Variable) := []
  hidden : List Hidden := []
  functions : List (Octets × Command) := []
  name : Octets
  parameters : List Octets := []
  optionPosition : OptionPosition := {}
  options : List Char := []
  status : Nat := 0
  /-- The status of the last command in a word of the current command. -/
  wordStatus : Nat := 0
  savedStatus : Option Nat := none
  line : Nat := 0
  /-- The lines that the readers of commands have reached, that of the current reader first and that
  of the input last. -/
  reached : List Nat := [1]
  running : Option Octets := none
  loops : Nat := 0
  jump : Jump := .none
  /-- Commands for signals; number zero stands for the exit. Empty ones ignore the signal. -/
  traps : List (Nat × Octets) := []
  signals : List Nat := []
  process : Nat
  /-- The numbers of the shells that wait for this one, the first of which is the last. -/
  ancestors : List Nat := []
  parents : List Nat := []
  lastBackground : Nat := 0
  jobs : List Job := []
  documents : List (Nat × Document) := []
  nextDocument : Nat := 0
  tracing : Bool := false
  printed : List Octets := []
  tracked : List Octets := []
  aliases : List (Octets × Octets) := []
  mask : Nat := 18

abbrev Run (α : Type) : Type := ExceptT Stop (StateM State) α

def assign {α β : Type} [BEq α] (key : α) (value : β) (entries : List (α × β)) : List (α × β) :=
  (key, value) :: entries.filter fun entry => !(entry.1 == key)

def unassign {α β : Type} [BEq α] (key : α) (entries : List (α × β)) : List (α × β) :=
  entries.filter fun entry => !(entry.1 == key)

namespace State

/-- The number that the shell shows, which is that of the first one. -/
def shownProcess (state : State) : Nat := state.ancestors.getLast?.getD state.process

def hasTraps (state : State) : Bool := state.traps.any (!·.2.isEmpty)

def environment (state : State) : List (Octets × Octets) :=
  state.bindings.reverse.filterMap fun (name, binding) =>
    if binding.exported then binding.value.map (name, ·) else none

def asProcess (state : State) : Process where
  descriptors := state.descriptors
  directory := state.directory
  environment := state.environment
  parents := state.process :: state.ancestors ++ state.parents

def hasOption (state : State) (letter : Char) : Bool := state.options.contains letter

def valueOf? (state : State) (name : Octets) : Option Octets :=
  (state.bindings.lookup name).bind (·.value)

def separators (state : State) : Option Octets := state.valueOf? "IFS".toList

end State

namespace Run

def write (descriptor : Nat) (text : Octets) : Run (Except SystemFault Unit) := do
  let state ← get
  match state.descriptors.lookup descriptor with
  | none => return .error .badDescriptor
  | some id =>
    match state.world.write id text with
    | .error fault => return .error fault
    | .ok world => do
      set { state with world }
      return .ok ()

def messageStart (state : State) (line : Nat) : Octets :=
  state.name ++ ": ".toList ++ Octets.ofNat line ++ ": ".toList ++
    match state.running with
    | some name => name ++ ": ".toList
    | none => []

def warnAt (line : Nat) (message : Octets) : Run Unit := do
  discard (write 2 (messageStart (← get) line ++ message ++ ['\n']))

def warn (message : Octets) : Run Unit := do warnAt (← get).line message

def setStatus (status : Nat) : Run Unit := modify fun state => { state with status }

def print (text : Octets) : Run Unit := modify fun state =>
  { state with printed := text :: state.printed }

def printLine (text : Octets) : Run Unit := print (text ++ ['\n'])

def inWorld {α : Type} (action : World → α × World) : Run α := do
  let state ← get
  let (result, world) := action state.world
  set { state with world }
  return result

def fail {α : Type} (message : Octets) : Run α := do
  setStatus 2
  warn message
  throw .fault

def failNumber {α : Type} (text : Octets) : Run α := fail ("Illegal number: ".toList ++ text)

def isVariableName (name : Octets) : Bool := Word.isName name && !name.isEmpty

def failName {α : Type} (name : Octets) : Run α := fail (name ++ ": bad variable name".toList)

/-- Binds a name to a text, whatever the name is. -/
def bind (name value : Octets) (exported : Bool := false) : Run Unit := do
  let state ← get
  let binding := (state.bindings.lookup name).getD {}
  if binding.readOnly then fail (name ++ ": is read only".toList)
  let binding := { binding with
    value := some value
    exported := binding.exported || exported || state.hasOption 'a' }
  set { state with
    bindings := assign name binding state.bindings
    optionPosition := if name = "OPTIND".toList then { argument := max 1 (Octets.decimal value) }
      else state.optionPosition
    tracked := if name = "PATH".toList then [] else state.tracked }

def setVariable (name value : Octets) (exported : Bool := false) : Run Unit := do
  if !isVariableName name then failName name
  bind name value exported

/-- Changes what else is known of a variable, which there may be from now on. -/
def markVariable (name : Octets) (mark : Variable → Variable) : Run Unit := modify fun state =>
  { state with
    bindings := assign name (mark ((state.bindings.lookup name).getD {})) state.bindings }

def unsetVariable (name : Octets) : Run Unit := do
  if !isVariableName name then failName name
  let state ← get
  if ((state.bindings.lookup name).map (·.readOnly)).getD false then
    fail (name ++ ": is read only".toList)
  set { state with bindings := unassign name state.bindings }

def splitAssignment (text : Octets) : Octets × Octets :=
  let name := text.takeWhile (· != '=')
  (name, text.drop (name.length + 1))

/-- Keeps what a variable is now, to be restored at the end of the current level. -/
def hide (name : Octets) : Run Unit := modify fun state =>
  match state.hidden with
  | [] => state
  | level :: outer =>
    if level.bindings.any (·.1 = name) then state
    else
      let bindings := (name, state.bindings.lookup name) :: level.bindings
      { state with hidden := { level with bindings } :: outer }

def hideOptions : Run Unit := modify fun state =>
  match state.hidden with
  | [] => state
  | level :: outer =>
    let options := some (level.options.getD state.options)
    { state with hidden := { level with options } :: outer }

def openLevel : Run Unit := modify fun state => { state with hidden := {} :: state.hidden }

/-- Restores what the variables were before the current level. A name that no variable can have is
noticed when it has to be removed. -/
def closeLevel : Run Unit := do
  let state ← get
  match state.hidden with
  | [] => pure ()
  | level :: outer =>
    let bindings := level.bindings.foldl (fun bindings (name, old) =>
      match old with
      | some binding => assign name binding bindings
      | none => unassign name bindings) state.bindings
    set { state with bindings, hidden := outer, options := level.options.getD state.options }
    match level.bindings.find? fun (name, old) => old.isNone && !isVariableName name with
    | some (name, _) => failName name
    | none => pure ()

def closeLevels : Nat → Run Unit
  | 0 => pure ()
  | count + 1 => closeLevel *> closeLevels count

/-- Runs something, and gives how it stopped if it did. -/
def attempt {α : Type} (run : Run α) : Run (Except Stop α) := fun state =>
  match run state with
  | (result, state) => (.ok result, state)

def unread (descriptor : Nat) : Run (Except SystemFault Octets) := do
  let state ← get
  match state.descriptors.lookup descriptor with
  | none => return .error .badDescriptor
  | some id => return state.world.unread id

def skip (descriptor count : Nat) : Run Unit := modify fun state =>
  match state.descriptors.lookup descriptor with
  | none => state
  | some id => { state with world := state.world.skip id count }

end Run

end ValidityTables.Shell
