import ValidityTables.Shell.Builtins.Control
import ValidityTables.Shell.Builtins.Describe
import ValidityTables.Shell.Builtins.Output
import ValidityTables.Shell.Builtins.Test
import ValidityTables.Shell.Redirections
import ValidityTables.Shell.Start

/-!
# Running commands

What each form of command does. The commands inside of a command are run by a function that is given
to it, so that each level of commands is run by the level below it.
-/

namespace ValidityTables.Shell.Evaluation

open Run Builtins

def atLine (line : Nat) : Run Unit := modify fun state => { state with line }

def runLast (evaluate : Evaluate) (role : Role) (body : Command) : Run Nat :=
  evaluate body { role with last := true }

def output (evaluate : Evaluate) : CommandOutput := fun body => do
  match body with
  | none => return []
  | some body => do
    let state ← get
    let (id, world) := state.world.add (.sink [])
    set { state with world }
    let (_, ending) ← inChild evaluate do
      Redirections.setDescriptor 1 id
      runLast evaluate {} body
    let status ← waitFor ending
    modify fun state => { state with wordStatus := status }
    return (← get).world.written id

def saveDescriptors (opened : List (Nat × Redirections.Opened)) (state : State) :
    List (Nat × Option Nat) :=
  opened.map fun (descriptor, _) => (descriptor, state.descriptors.lookup descriptor)

def restoreDescriptors (saved : List (Nat × Option Nat)) : Run Unit := modify fun state =>
  { state with descriptors := saved.foldl (fun descriptors (descriptor, id) =>
      match id with
      | some id => assign descriptor id descriptors
      | none => unassign descriptor descriptors) state.descriptors }

def afterwards {α : Type} (run : Run α) (ending : Run Unit) : Run α := do
  let result ← attempt run
  ending
  match result with
  | .ok a => return a
  | .error stop => throw stop

/-- Runs a command with redirections, unless one of them cannot be done. That is a failure which can
end the shell. -/
def redirecting (evaluate : Evaluate) (role : Role) (redirections : List Redirection)
    (body : Command) : Run Nat := do
  let opened ← redirections.mapM (Redirections.expand (output evaluate))
  let saved := saveDescriptors opened (← get)
  afterwards (do
    let status ← Redirections.attemptAll (output evaluate) opened
    if status = 0 then evaluate body { tested := role.tested }
    else if !role.tested && (← get).hasOption 'e' then throw .finish
    else return status) (restoreDescriptors saved)

section Loops

/-- Whether a loop goes on after its body or its condition was run. A jump that ends at the loop is
over then. -/
def nextRound : Run Bool := do
  let setJump (jump : Jump) : Run Unit := modify fun state => { state with jump }
  match (← get).jump with
  | .none => return true
  | .leaveFunction _ => return false
  | .leaveLoops count => do
    setJump (if count ≤ 1 then .none else .leaveLoops (count - 1))
    return false
  | .continueLoop count => do
    setJump (if count ≤ 1 then .none else .continueLoop (count - 1))
    return count ≤ 1

def inLoop (run : Run Nat) : Run Nat := do
  modify fun state => { state with loops := state.loops + 1 }
  let status ← run
  modify fun state => { state with loops := state.loops - 1 }
  return status

def runLoop (evaluate : Evaluate) (role : Role) (untilTrue : Bool) (condition body : Command)
    (status : Nat) : Nat → Run Nat
  | 0 => return status
  | rounds + 1 => do
    let found ← evaluate condition { tested := true }
    let jump := (← get).jump
    let goesOn ← nextRound
    if jump != .none then
      let status := if jump = .leaveFunction true then found else status
      if goesOn then runLoop evaluate role untilTrue condition body status rounds
      else return status
    else if (found = 0) == untilTrue then return status
    else
      let status ← evaluate body role
      if ← nextRound then runLoop evaluate role untilTrue condition body status rounds
      else return status

def roundLimit : Nat := 1000000000

def runEach (evaluate : Evaluate) (role : Role) (name : Octets) (body : Command) (status : Nat) :
    List Octets → Run Nat
  | [] => return status
  | text :: rest => do
    setVariable name text
    let status ← evaluate body role
    if ← nextRound then runEach evaluate role name body status rest else return status

end Loops

section Choices

def matchesAny (evaluate : Evaluate) (text : Octets) : List Word → Run Bool
  | [] => return false
  | word :: rest => do
    let pattern ← Expansion.pattern (output evaluate) word
    if Pattern.matchesText pattern text then return true else matchesAny evaluate text rest

def runBranch (evaluate : Evaluate) (role : Role) (text : Octets) :
    List (List Word × Option Command) → Run Nat
  | [] => return 0
  | (patterns, body) :: rest => do
    if ← matchesAny evaluate text patterns then
      match body with
      | some body => evaluate body role
      | none => return 0
    else runBranch evaluate role text rest

end Choices

section Children

def runSubshell (evaluate : Evaluate) (role : Role) (body : Command)
    (redirections : List Redirection) : Run Nat := do
  let opened ← redirections.mapM (Redirections.expand (output evaluate))
  let run : Run Nat := do
    Redirections.applyAll (output evaluate) opened
    runLast evaluate role body
  if role.last && !(← get).hasTraps then run
  else
    let (_, ending) ← inChild evaluate run
    waitFor ending

def withoutInput : Run Unit := do
  let id ← inWorld (·.add (.device .null World.Opening.toRead.access))
  Redirections.setDescriptor 0 id

def runInBackground (evaluate : Evaluate) (run : Run Nat) : Run Nat := do
  let (process, ending) ← inChild evaluate do
    withoutInput
    run
  let status := match ending with
    | .exited status => status
    | .signalled signal => 128 + signal
  modify fun state => { state with
    lastBackground := process
    jobs := { process, status } :: state.jobs }
  return 0

/-- Runs the commands of a pipeline, each in a child, and gives how the last one ended. The input of
each is what the one before it wrote. -/
def runPipes (evaluate : Evaluate) (role : Role) (input : Option Nat) :
    List Command → Run (Nat × Ending)
  | [] => return (0, .exited 0)
  | command :: rest => do
    let channel ← inWorld (·.add (.sink []))
    let (process, ending) ← inChild evaluate do
      if let some input := input then Redirections.setDescriptor 0 input
      if !rest.isEmpty then Redirections.setDescriptor 1 channel
      runLast evaluate role command
    match rest with
    | [] => return (process, ending)
    | rest => do
      discard (statusOf ending)
      modify fun state => { state with
        world := state.world.setChannel channel (.source (state.world.written channel)) }
      runPipes evaluate role (some channel) rest

def runPipeline (evaluate : Evaluate) (role : Role) (background : Bool) (commands : List Command) :
    Run Nat := do
  if background then
    let (process, world) := (← get).world.start
    modify fun state => { state with world }
    let input ← inWorld (·.add (.device .null World.Opening.toRead.access))
    let (_, ending) ← runPipes evaluate {} (some input) commands
    let status := match ending with
      | .exited status => status
      | .signalled signal => 128 + signal
    modify fun state => { state with
      lastBackground := process
      jobs := { process, status } :: state.jobs }
    return 0
  else
    let (_, ending) ← runPipes evaluate role none commands
    waitFor ending

end Children

section Programs

/-- What is run for a path; a file without an interpreter is a script for the shell. -/
def imageAt (state : State) (path : Octets) (words : List Octets) :
    Except SystemFault Launch.Image :=
  match Launch.image state.world state.asProcess path words with
  | .error .notExecutable =>
    .ok { program := "dash", arguments := "/bin/sh".toList :: path :: words.drop 1 }
  | result => result

def imageAmong (state : State) (words : List Octets) (fault : SystemFault) :
    List Octets → Except SystemFault Launch.Image
  | [] => .error fault
  | path :: paths =>
    match imageAt state path words with
    | .ok image => .ok image
    | .error .notFound | .error .notDirectory => imageAmong state words fault paths
    | .error fault => imageAmong state words fault paths

def faultStatus (fault : SystemFault) : Nat :=
  if [.tooManyLinks, .nameTooLong, .notFound, .notDirectory].contains fault then 127 else 126

def replaceShell (evaluate : Evaluate) (directories : Octets) (words : List Octets) : Run Nat := do
  let state ← get
  let name := words.head?.getD []
  match imageAmong state words .notFound (Launch.candidates directories name) with
  | .error fault => do
    let status := faultStatus fault
    setStatus status
    warn (name ++ ": ".toList ++ Search.faultText fault)
    throw .finish
  | .ok image => do
    let process := { state.asProcess with parents := state.ancestors ++ state.parents }
    let (ending, world) := Start.run evaluate image process state.process state.world
    set { state with world }
    throw (.ended ending)

def runProgram (evaluate : Evaluate) (role : Role) (directories : Octets) (words : List Octets) :
    Run Nat := do
  let state ← get
  let name := words.head?.getD []
  match Search.program state directories name with
  | .error fault => do
    warn (name ++ ": ".toList ++ Search.faultText fault)
    return 127
  | .ok _ => do
    if !name.contains '/' && !state.tracked.contains name then
      set { state with tracked := name :: state.tracked }
    if role.last && !state.hasTraps then replaceShell evaluate directories words
    else
      let (_, ending) ← inChild evaluate (replaceShell evaluate directories words)
      waitFor ending

end Programs

section Functions

def runFunction (evaluate : Evaluate) (role : Role) (body : Command) (arguments : List Octets) :
    Run Nat := do
  let before ← get
  set { before with
    parameters := arguments
    optionPosition := {}
    loops := 0 }
  afterwards (do discard (evaluate body { tested := role.tested })) <|
    modify fun state => { state with
      parameters := before.parameters
      optionPosition := before.optionPosition
      loops := before.loops
      jump := match state.jump with
        | .leaveFunction _ => .none
        | jump => jump }
  return (← get).status

end Functions

section Builtins

def flush : Run (Except SystemFault Unit) := do
  let text := (← get).printed.reverse.flatten
  modify fun state => { state with printed := [] }
  if text.isEmpty then return .ok () else write 1 text

def runBuiltin (name : Octets) (run : Run Nat) : Run Nat := do
  let before := (← get).running
  modify fun state => { state with running := some name }
  afterwards (do
    let result ← attempt run
    let written ← flush
    match result, written with
    | .error stop, _ => throw stop
    | .ok status, .ok () => do
      setStatus status
      return status
    | .ok status, .error _ => do
      warn (name ++ ": I/O error".toList)
      let status := status ||| 1
      setStatus status
      return status) (modify fun state => { state with running := before })

def evaluateText (evaluate : Evaluate) (role : Role) : Builtin := fun arguments =>
  if arguments.isEmpty then return 0
  else Script.runText evaluate { tested := role.tested } ([' '].intercalate arguments)

/-- The path of a file of commands: a path as it is, or a file in one of the directories in which
programs are looked for. -/
def commandFile (name : Octets) : Run Octets := do
  let state ← get
  if name.contains '/' then return name
  let isFile (path : Octets) : Bool :=
    match state.world.tree.resolve (state.descriptors.map (·.1)) state.directory path with
    | .ok (.present _ (.file _ _)) | .ok (.present _ (.program _)) => true
    | _ => false
  match (Launch.candidates (Search.directories state) name).find? isFile with
  | some path => return path
  | none => fail (name ++ ": not found".toList)

def runFile (evaluate : Evaluate) : Builtin := fun arguments => do
  match ← dropOptions arguments with
  | [] => return 0
  | name :: _ => do
    let path ← commandFile name
    let id ← Start.openScript path
    modify fun state => { state with running := some path }
    Script.runFile evaluate id

def replace (evaluate : Evaluate) : Builtin := fun arguments => do
  if arguments.isEmpty then return 0
  replaceShell evaluate (Search.directories (← get)) arguments

def failJob (job : Octets) : Run Nat := fail ("No such job: ".toList ++ job)

def goOnWithJob : Builtin := fun arguments => do
  match arguments with
  | [] => fail "No current job".toList
  | job :: _ => failJob job

def showJobs : Builtin := fun arguments => do
  match (← readOptions [('l', false), ('p', false)] arguments).2 with
  | [] => return 0
  | job :: _ => failJob job

def builtin (evaluate : Evaluate) (role : Role) (name : String) : Builtin :=
  match name with
  | "." => runFile evaluate
  | "break" => Control.leave .leaveLoops
  | "continue" => Control.leave .continueLoop
  | "eval" => evaluateText evaluate role
  | "exec" => replace evaluate
  | "exit" => Control.exit
  | "export" => Variables.exportNames
  | "local" => Variables.makeLocal
  | "readonly" => Variables.makeReadOnly
  | "return" => Control.leaveFunction
  | "set" => Variables.set
  | "shift" => Variables.shift
  | "times" => Control.showTimes
  | "trap" => Control.trap
  | "unset" => Variables.unset
  | "[" => Test.bracket
  | "alias" => Variables.setAliases
  | "bg" | "fg" => goOnWithJob
  | "cd" | "chdir" => Places.changeDirectory
  | "command" => Describe.command
  | "echo" => Output.echo
  | "false" => fun _ => return 1
  | "getopts" => Variables.getOptions
  | "hash" => Describe.track
  | "jobs" => showJobs
  | "kill" => Control.kill
  | "printf" => Output.printf
  | "pwd" => Places.showDirectory
  | "read" => Variables.read
  | "test" => Test.test
  | "type" => Describe.describeAll
  | "umask" => Places.setMask
  | "unalias" => Variables.removeAliases
  | "wait" => Control.wait
  | _ => fun _ => return 0

end Builtins

section SimpleCommands

/-- What is left after the options of `command`, if it runs a command: the words of that, and
whether programs are looked for in the usual directories. -/
def skipCommandOptions (usual : Bool) : List Octets → Option (List Octets × Bool)
  | [] => none
  | ['-'] :: rest => some (['-'] :: rest, usual)
  | ['-', '-'] :: rest => if rest.isEmpty then none else some (rest, usual)
  | ('-' :: letters) :: rest =>
    if letters.all (· == 'p') then skipCommandOptions true rest else none
  | words => some (words, usual)

structure Located where
  words : List Octets
  known : Search.Known
  first : Option Search.Trait := none
  usual : Bool := false

/-- Finds out what the words of a command are for. Each step takes a word, which bounds their
number. -/
def locate (state : State) (functions usual : Bool) (first : Option Search.Trait) :
    Nat → List Octets → Located
  | bound + 1, name :: rest =>
    let known := Search.known state functions name
    match known with
    | .builtin trait =>
      let first := some (first.getD trait)
      match if trait.name = "command" then skipCommandOptions usual rest else none with
      | some (words, usual) => locate state false usual first bound words
      | none => { words := name :: rest, known, first, usual }
    | known => { words := name :: rest, known, first, usual }
  | _, words => { words, known := .other, first, usual }

def Located.ofWords (state : State) (words : List Octets) : Located :=
  locate state true false none words.length words

def Located.assigns (located : Located) : Bool :=
  match located.known with
  | .builtin trait => trait.assigns
  | _ => false

/-- Expands the words of a command, where those that follow some built-in commands may be
assignments. -/
def expandWords (evaluate : Evaluate) (done : List Octets) : List Word → Run (List Octets)
  | [] => return done
  | word :: rest => do
    let fields ←
      if word.isAssignment && (Located.ofWords (← get) done).assigns then do
        pure [← Expansion.text (output evaluate) { assigning := true } word]
      else Expansion.fields (output evaluate) word
    expandWords evaluate (done ++ fields) rest

inductive Keeping
  | hidden
  | kept
  | exported
  deriving DecidableEq, Repr

def assignAll (evaluate : Evaluate) (keeping : Keeping) : List Word → Run (List Octets)
  | [] => return []
  | word :: rest => do
    let text ← Expansion.text (output evaluate) { assigning := true } word
    let (name, value) := splitAssignment text
    if keeping = .hidden then hide name
    setVariable name value (keeping != .kept)
    return text :: (← assignAll evaluate keeping rest)

def traceStart (evaluate : Evaluate) : Run Octets := do
  let text := ((← get).valueOf? "PS4".toList).getD []
  if !text.any ("$\x60\\".toList.contains ·) then return text
  let reader := readDocument (readGoal text.length (.list .enclosed))
    { number := 0, stripTabs := false, expanded := true, ending := ['\n'] }
  match (ExceptT.run reader).run (.ofText text 0) with
  | (.ok (), source) =>
    match source.documents.head? with
    | some (_, document) => do
      modify fun state => { state with tracing := true }
      let shown ← Expansion.expandParts (output evaluate) { quoted := true } false false
        document.text
      modify fun state => { state with tracing := false }
      return Stretch.text shown
    | none => return text
  | (.error _, _) => return text

/-- Shows a command before it runs, on the channel that errors had before it. -/
def trace (evaluate : Evaluate) (channel : Option Nat) (texts : List Octets) : Run Unit := do
  let state ← get
  if !state.hasOption 'x' || state.tracing then return
  let start ← traceStart evaluate
  let line := start ++ [' '].intercalate texts ++ ['\n']
  modify fun state => match channel.map fun id => state.world.write id line with
    | some (.ok world) => { state with world }
    | _ => state

def runLocated (evaluate : Evaluate) (role : Role) (located : Located) : Run Nat := do
  match located.words, located.known with
  | [], _ => do
    let status := (← get).wordStatus
    setStatus status
    return status
  | name :: arguments, .builtin trait => do
    let run := runBuiltin name (builtin evaluate role trait.name arguments)
    if (located.first.map (·.special)).getD false then run
    else match ← attempt run with
      | .ok status => return status
      | .error .fault => return (← get).status
      | .error stop => throw stop
  | _ :: arguments, .function body => runFunction evaluate role body arguments
  | words, .other => do
    let state ← get
    let directories := if located.usual then Launch.usualDirectories
      else Search.directories state
    runProgram evaluate role directories words

def runSimple (evaluate : Evaluate) (role : Role) (line : Nat) (assignments words : List Word)
    (redirections : List Redirection) : Run Nat := do
  atLine line
  modify fun state => { state with wordStatus := 0 }
  let words ← expandWords evaluate [] words
  let before ← get
  let located := Located.ofWords before words
  let special := (located.first.map (·.special)).getD false
  let executes := match located.known with
    | .builtin trait => trait.name = "exec"
    | _ => false
  let hides := !words.isEmpty && !special
  let keeping : Keeping :=
    if hides then .hidden
    else if executes && located.words.length > 1 then .exported
    else .kept
  if hides then openLevel
  let opened ← redirections.mapM (Redirections.expand (output evaluate))
  let saved := saveDescriptors opened (← get)
  let errors := (← get).descriptors.lookup 2
  let run : Run Nat := do
    let status ← Redirections.attemptAll (output evaluate) opened
    if status != 0 then
      setStatus status
      if special then throw .fault
      return status
    let texts ← assignAll evaluate keeping assignments
    trace evaluate errors (texts ++ located.words)
    runLocated evaluate role located
  match ← attempt run with
  | .ok status => do
    if !executes then restoreDescriptors saved
    closeLevels ((← get).hidden.length - before.hidden.length)
    return status
  | .error stop => do
    restoreDescriptors saved
    throw stop

end SimpleCommands

def andThen (evaluate : Evaluate) (role : Role) (first : Role) (goesOn : Nat → Bool)
    (command following : Command) : Run Nat := do
  let status ← evaluate command first
  if !goesOn status || (← get).jump != .none then return status
  evaluate following role

def runSequence (evaluate : Evaluate) (role : Role) : List Command → Run Nat
  | [] => return 0
  | [command] => evaluate command role
  | command :: rest => do
    let status ← evaluate command { tested := role.tested }
    if (← get).jump != .none then return status
    runSequence evaluate role rest

def perform (evaluate : Evaluate) (role : Role) : Command → Run Nat
  | .simple line assignments words redirections =>
    runSimple evaluate role line assignments words redirections
  | .pipeline background commands => runPipeline evaluate role background commands
  | .inBackground line body redirections => do
    atLine line
    let opened ← redirections.mapM (Redirections.expand (output evaluate))
    runInBackground evaluate do
      Redirections.applyAll (output evaluate) opened
      runLast evaluate {} body
  | .redirected line body redirections => do
    atLine line
    redirecting evaluate role redirections body
  | .subshell line body redirections => do
    atLine line
    runSubshell evaluate role body redirections
  | .sequence commands => runSequence evaluate role commands
  | .andThen first second => andThen evaluate role { tested := true } (· == 0) first second
  | .orElse first second => andThen evaluate role { tested := true } (· != 0) first second
  | .negation body => do
    let status ← evaluate body { tested := true }
    return if status = 0 then 1 else 0
  | .conditional condition consequence alternative => do
    let status ← evaluate condition { tested := true }
    if (← get).jump != .none then return status
    if status = 0 then evaluate consequence role
    else match alternative with
      | some alternative => evaluate alternative role
      | none => return 0
  | .loop untilTrue condition body =>
    inLoop (runLoop evaluate { tested := role.tested } untilTrue condition body 0 roundLimit)
  | .each line name words body => do
    atLine line
    let texts ← words.flatMapM fun word => Expansion.fields (output evaluate) word
    inLoop (runEach evaluate { tested := role.tested } name body 0 texts)
  | .choose line subject branches => do
    atLine line
    let text ← Expansion.text (output evaluate) { tilde := true } subject
    runBranch evaluate role text branches
  | .define name body => do
    modify fun state => { state with functions := assign name body state.functions }
    return 0

def isChecked : Command → Bool
  | .simple _ _ _ _ | .pipeline _ _ | .inBackground _ _ _ | .subshell _ _ _ => true
  | _ => false

/-- Runs a command, with what is arranged for signals before and after it. A failure ends the shell
where it should, and so does the last command. -/
def step (evaluate : Evaluate) (command : Command) (role : Role) : Run Nat := do
  if (← get).hasOption 'n' then return (← get).status
  performTraps evaluate
  let status ← perform evaluate role command
  setStatus status
  noticeSignals
  performTraps evaluate
  if isChecked command && !role.tested && (← get).hasOption 'e' && status != 0 then throw .finish
  if role.last then throw .finish
  return (← get).status

/-- Runs a command whose commands are nested at most so deeply. A shell that is asked for more ends
as if its stack was used up. -/
def evaluate : Nat → Evaluate
  | 0 => fun _ _ => throw (.ended (.signalled Signal.segmentation))
  | depth + 1 => step (evaluate depth)

end ValidityTables.Shell.Evaluation
