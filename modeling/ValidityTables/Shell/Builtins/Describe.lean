import ValidityTables.Shell.Builtins.Variables
import ValidityTables.Shell.Search

/-!
# What names stand for

Built-in commands that tell what a name would run.
-/

namespace ValidityTables.Shell.Builtins.Describe

open Run

def describe (sentence : Bool) (directories : Option Octets) (name : Octets) : Run Nat := do
  let say (text short : Octets) : Run Nat := do
    printLine (if sentence then name ++ text else short)
    return 0
  let state ← get
  if Keyword.all.any (·.text.toList = name) then say " is a shell keyword".toList name
  else if let some value := state.aliases.lookup name then
    say (" is an alias for ".toList ++ value)
      ("alias ".toList ++ name ++ '=' :: Variables.quote value)
  else match Search.known state true name with
    | .function _ => say " is a shell function".toList name
    | .builtin trait =>
      say (" is a ".toList ++ (if trait.special then "special " else "").toList ++
        "shell builtin".toList) name
    | .other =>
      let path := Search.program state (directories.getD (Search.directories state)) name
      let path := if name.contains '/' && !Search.isThere state name then .error .notFound else path
      match path with
      | .ok path =>
        let way := if state.tracked.contains name then " is a tracked alias for " else " is "
        say (way.toList ++ path) path
      | .error _ => do
        if sentence then printLine (name ++ ": not found".toList)
        return 127

def describeAll : Builtin := fun arguments => do
  let statuses ← arguments.mapM (describe true none)
  return statuses.foldl (· ||| ·) 0

def command : Builtin := fun arguments => do
  let (options, rest) ← readOptions [('p', false), ('v', false), ('V', false)] arguments
  let letters := options.map (·.1)
  match rest with
  | name :: _ =>
    if letters.contains 'v' || letters.contains 'V' then
      describe (letters.contains 'V')
        (if letters.contains 'p' then some Launch.usualDirectories else none) name
    else return 0
  | [] => return 0

def track : Builtin := fun arguments => do
  let (options, names) ← readOptions [('r', false)] arguments
  if !options.isEmpty then
    modify fun state => { state with tracked := [] }
    return 0
  if names.isEmpty then
    let state ← get
    state.tracked.forM fun name =>
      match Search.program state (Search.directories state) name with
      | .ok path => printLine path
      | .error _ => pure ()
    return 0
  let found ← names.mapM fun name => do
    let state ← get
    match Search.known state true name, Search.program state (Search.directories state) name with
    | .other, .ok _ => do
      if !name.contains '/' && !state.tracked.contains name then
        set { state with tracked := name :: state.tracked }
      return true
    | .other, .error fault => do
      warn (name ++ ": ".toList ++ Search.faultText fault)
      return false
    | _, _ => return true
  return if found.all id then 0 else 1

end ValidityTables.Shell.Builtins.Describe
