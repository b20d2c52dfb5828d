import ValidityTables.Programs.Env
import ValidityTables.Programs.Installed
import ValidityTables.Shell.Builtins.Places
import ValidityTables.Shell.Builtins.Variables
import ValidityTables.Shell.Script

/-!
# Starting a shell

What a shell does when it is started: it takes the environment over, reads its arguments, and runs
the commands in them, in a file or in its input. Other programs are started in the same way.
-/

namespace ValidityTables.Shell.Start

open Run Builtins

def pathAtStart (process : Process) (world : World) : Octets :=
  let isHere (path : Octets) : Bool :=
    FileTree.isAbsolute path &&
      match world.tree.resolve [] process.directory path with
      | .ok (.present place _) => place == process.directory
      | _ => false
  match process.environment.lookup "PWD".toList with
  | some path => if isHere path then path else Places.pathOf process.directory
  | none => Places.pathOf process.directory

def usualVariables (process : Process) (path : Octets) : List (Octets × Variable) :=
  let text (name : String) (value : Octets) (exported : Bool := false) : Octets × Variable :=
    (name.toList, { value := some value, exported })
  let directories := if (process.environment.lookup "PATH".toList).isSome then []
    else [text "PATH" Launch.usualDirectories]
  directories ++
    [text "PS1" "# ".toList, text "PS2" "> ".toList, text "PS4" "+ ".toList,
      text "IFS" Stretch.usualSeparators, text "OPTIND" ['1'],
      text "PPID" (Octets.ofNat (process.parents.head?.getD 1)), text "PWD" path true]

def initial (process : Process) (number : Nat) (name : Octets) (world : World) : State :=
  let path := pathAtStart process world
  let imported := process.environment.filter fun entry =>
    !entry.1.isEmpty && Word.isName entry.1
  let start : List (Octets × Variable) := imported.foldl (fun bindings (name, value) =>
    assign name { value := some value, exported := true } bindings) []
  { world
    descriptors := process.descriptors
    directory := process.directory
    path
    bindings := (usualVariables process path).foldl (fun bindings (name, binding) =>
      assign name binding bindings) start
    name
    process := number
    parents := process.parents }

def openScript (path : Octets) : Run Nat := do
  let state ← get
  match state.world.openPath state.asProcess .toRead path with
  | .ok (id, world) => do
    set { state with world }
    return id
  | .error fault =>
    let text := if fault = .notFound ∨ fault = .notDirectory then "No such file" else fault.text
    fail ("cannot open ".toList ++ path ++ ": ".toList ++ text.toList)

def runInput (evaluate : Evaluate) : Run Nat := do
  match (← get).descriptors.lookup 0 with
  | none => return (← get).status
  | some id => Script.runInput evaluate id

def perform (evaluate : Evaluate) (arguments : List Octets) : Run Nat := do
  let (found, _, operands) ←
    Variables.readShellOptions (fun c => c == 'c' || c == 'l') arguments.length arguments
  let takesText := found.contains 'c'
  if operands.isEmpty then
    if takesText then fail "-c requires an argument".toList
    Variables.setOption true 's'
  let readsInput := (← get).hasOption 's'
  match takesText, operands with
  | true, text :: operands => do
    modify fun state => { state with
      name := operands.head?.getD state.name
      parameters := operands.drop 1 }
    let status ← Script.runText evaluate { last := !readsInput } text
    if readsInput then runInput evaluate else return status
  | false, path :: rest =>
    if readsInput then do
      modify fun state => { state with parameters := operands }
      runInput evaluate
    else do
      let id ← openScript path
      modify fun state => { state with name := path, parameters := rest }
      Script.runFile evaluate id
  | _, [] => runInput evaluate

def shell (evaluate : Evaluate) (arguments : List Octets) (process : Process) (number : Nat)
    (world : World) : Ending × World :=
  let state := initial process number (arguments.head?.getD []) world
  let (ending, state) := complete evaluate (perform evaluate (arguments.drop 1)) state
  (ending, state.world)

/-- Runs a program to its end; `bound` limits how many programs start another one in their place. -/
def program (evaluate : Evaluate) : Nat → Launch.Image → Process → Nat → World → Ending × World
  | 0, _, _, _, world => (.exited 126, world)
  | bound + 1, image, process, number, world =>
    let name := image.arguments.head?.getD []
    let arguments := image.arguments.drop 1
    if image.program = "dash" then shell evaluate image.arguments process number world
    else if image.program = "env" then
      match ((Env.main name arguments).run process).run.run world with
      | (.error ending, world) => (ending, world)
      | (.ok none, world) => (.exited 0, world)
      | (.ok (some (image, process)), world) => program evaluate bound image process number world
    else match Program.installed.lookup image.program with
      | some main => Program.perform (main name arguments) process world
      | none => (.exited 127, world)

def replacementLimit : Nat := 100

def run (evaluate : Evaluate) (image : Launch.Image) (process : Process) (number : Nat)
    (world : World) : Ending × World :=
  program evaluate replacementLimit image process number world

end ValidityTables.Shell.Start
