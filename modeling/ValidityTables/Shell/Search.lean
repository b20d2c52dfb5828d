import ValidityTables.Host.Launch
import ValidityTables.Shell.State

/-!
# Finding commands

A name stands for a function, for a built-in command, or for a program in one of the directories in
which programs are looked for.
-/

namespace ValidityTables.Shell.Search

structure Trait where
  name : String
  /-- An error in it ends the shell, and assignments before it stay. -/
  special : Bool := false
  assigns : Bool := false
  deriving Repr

def traits : List Trait :=
  ([".", ":", "break", "continue", "eval", "exec", "exit", "return", "set", "shift", "times",
    "trap", "unset"].map fun name => { name, special := true }) ++
  (["export", "readonly", "local"].map fun name => { name, special := true, assigns := true }) ++
  (["[", "alias", "bg", "cd", "chdir", "command", "echo", "false", "fg", "getopts", "hash", "jobs",
    "kill", "printf", "pwd", "read", "test", "true", "type", "ulimit", "umask", "unalias",
    "wait"].map fun name => { name := name })

def builtin? (name : Octets) : Option Trait := traits.find? (·.name.toList = name)

inductive Known
  | function (body : Command)
  | builtin (trait : Trait)
  | other

def known (state : State) (functions : Bool) (name : Octets) : Known :=
  match if functions then state.functions.lookup name else none, builtin? name with
  | some body, _ => .function body
  | none, some trait => .builtin trait
  | none, none => .other

def directories (state : State) : Octets := (state.valueOf? "PATH".toList).getD []

def findAmong (state : State) (fault : SystemFault) : List Octets → Except SystemFault Octets
  | [] => .error fault
  | path :: paths =>
    match state.world.tree.resolve (state.descriptors.map (·.1)) state.directory path with
    | .error .notFound | .error .notDirectory | .ok (.absent _) => findAmong state fault paths
    | .error fault => findAmong state fault paths
    | .ok (.present _ (.file _ true)) | .ok (.present _ (.program _)) => .ok path
    | .ok (.present _ _) => findAmong state .permissionDenied paths

/-- The path of the program with a name. A path is not looked at. -/
def program (state : State) (directories name : Octets) : Except SystemFault Octets :=
  if name.contains '/' then .ok name
  else findAmong state .notFound (Launch.candidates directories name)

def faultText (fault : SystemFault) : Octets :=
  (if fault = .notFound ∨ fault = .notDirectory then "not found" else fault.text).toList

def isThere (state : State) (path : Octets) : Bool :=
  match state.world.tree.resolve (state.descriptors.map (·.1)) state.directory path with
  | .ok (.present _ _) => true
  | _ => false

end ValidityTables.Shell.Search
