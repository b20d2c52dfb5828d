import ValidityTables.Access
import ValidityTables.Host.System
import ValidityTables.Shell.Evaluation

/-!
# The host of a run

What surrounds a run: the files of its working directory, its input, the programs it can start, the
account variables, the clock, and what it prints.
-/

namespace ValidityTables

structure Host where
  world : World
  account : Access.Variables
  date : String
  printed : Array String := #[]

/-- What a program left behind. The exit code of a program that a signal ended is minus one. -/
structure Finished where
  exitCode : Int
  stdout : List UInt8
  stderr : List UInt8
  deriving DecidableEq, Repr

namespace Host

def workplace : Place := FileTree.placeOf "/tmp/run"

def putFile (name : String) (content : List UInt8) (host : Host) : Host :=
  { host with world := { host.world with
      tree := host.world.tree.putFile workplace (.ofText name) (.ofBytes content) } }

def ofInput (account : Access.Variables) (date : String) (input : List UInt8 := []) : Host where
  world := {
    tree := .ofSystem Program.names workplace
    channels := #[.source (.ofBytes input), .sink [], .sink []] }
  account
  date

def print (text : String) (host : Host) : Host := { host with printed := host.printed.push text }

def output (host : Host) : String := String.join host.printed.toList

def usualEnvironment : List (Octets × Octets) :=
  [("PATH".toList, Launch.usualDirectories), ("HOME".toList, "/root".toList)]

def process (host : Host) : Process where
  descriptors := [(0, 0), (1, 1), (2, 2)]
  directory := workplace
  environment := usualEnvironment ++ host.account.entries.map fun (name, value) =>
    (.ofText name, .ofText value)

def takeAll (id : Nat) (host : Host) : Except IoFault (List UInt8) × Host :=
  match host.world.unread id with
  | .error fault => (.error (.system fault), host)
  | .ok text => (.ok text.toBytes, { host with world := host.world.skip id text.length })

def takeInput (host : Host) : List UInt8 × Host :=
  let (input, host) := host.takeAll 0
  (input.toOption.getD [], host)

/-- Whether a text cannot be given to the system because it holds a NUL. -/
def hasNul (text : String) : Bool := text.toList.contains '\x00'

def readFile (path : String) (host : Host) : Except IoFault (List UInt8) × Host :=
  if hasNul path then (.error .nulInName, host)
  else match host.world.openPath host.process .toRead (.ofText path) with
    | .error fault => (.error (.system fault), host)
    | .ok (id, world) => ({ host with world } : Host).takeAll id

/-- Writes a file, whose directory has to be there. -/
def save (path : String) (content : List UInt8) (host : Host) :
    Except IoFault Unit × Host :=
  if hasNul path then (.error .nulInName, host)
  else match host.world.openPath host.process .toWrite (.ofText path) with
    | .error fault => (.error (.system fault), host)
    | .ok (id, world) =>
      match world.write id (.ofBytes content) with
      | .error fault => (.error (.system fault), host)
      | .ok world => (.ok (), { host with world })

def commandDepth : Nat := 20000

/-- Runs a program to its end. It may change the files of the working directory. -/
def runProgram (host : Host) (program : String) (arguments : List String) (stdin : List UInt8) :
    Except IoFault Finished × Host :=
  if (program :: arguments).any hasNul then (.error .nulInArgument, host)
  else
    let process := host.process
    match Launch.find host.world process (.ofText program) (arguments.map .ofText) with
    | .error fault => (.error (.system fault), host)
    | .ok image =>
      let (input, world) := host.world.add (.source (.ofBytes stdin))
      let (output, world) := world.add (.sink [])
      let (errors, world) := world.add (.sink [])
      let (number, world) := world.start
      let (ending, world) := Shell.Start.run (Shell.Evaluation.evaluate commandDepth) image
        { process with descriptors := [(0, input), (1, output), (2, errors)] } number world
      (.ok {
        exitCode := match ending with
          | .exited status => status
          | .signalled _ => -1
        stdout := (world.written output).toBytes
        stderr := (world.written errors).toBytes },
        { host with world := { world with channels := host.world.channels, signals := [] } })

end Host

end ValidityTables
