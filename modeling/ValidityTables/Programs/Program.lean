import ValidityTables.Host.World

/-!
# Programs

A program reads and writes under its descriptors, opens files, and ends with a status. Its steps act
on the world that it shares with other programs.
-/

namespace ValidityTables

abbrev Program (α : Type) : Type := ReaderT Process (ExceptT Ending (StateM World)) α

namespace Program

def exit {α : Type} (status : Nat) : Program α := throw (.exited status)

def write (descriptor : Nat) (text : Octets) : Program (Except SystemFault Unit) := do
  match (← read).descriptors.lookup descriptor with
  | none => return .error .badDescriptor
  | some id =>
    match (← get).write id text with
    | .error fault => return .error fault
    | .ok world => do
      set world
      return .ok ()

def takeAll (id : Nat) : Program (Except SystemFault Octets) := do
  match (← get).unread id with
  | .error fault => return .error fault
  | .ok text => do
    modify (·.skip id text.length)
    return .ok text

def channel (descriptor : Nat) : Program (Except SystemFault Nat) := do
  match (← read).descriptors.lookup descriptor with
  | none => return .error .badDescriptor
  | some id => return .ok id

def openFile (path : Octets) : Program (Except SystemFault Nat) := do
  match (← get).openPath (← read) .toRead path with
  | .error fault => return .error fault
  | .ok (id, world) => do
    set world
    return .ok id

def complain (name message : Octets) : Program Unit :=
  discard (write 2 (name ++ ": ".toList ++ message ++ ['\n']))

def fail {α : Type} (name message : Octets) : Program α := do
  complain name message
  exit 1

def print (name text : Octets) : Program Unit := do
  match ← write 1 text with
  | .ok () => return
  | .error fault => fail name ("write error: ".toList ++ fault.text.toList)

def referToHelp {α : Type} (name : Octets) : Program α := do
  discard (write 2 ("Try '".toList ++ name ++ " --help' for more information.\n".toList))
  exit 1

def perform (program : Program Nat) (process : Process) (world : World) : Ending × World :=
  match (ExceptT.run (program process)).run world with
  | (.ok status, world) => (.exited status, world)
  | (.error ending, world) => (ending, world)

end Program

end ValidityTables
