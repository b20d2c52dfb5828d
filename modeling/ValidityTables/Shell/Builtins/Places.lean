import ValidityTables.Shell.Builtins.Options

/-!
# The working directory

Built-in commands for the directory in which commands work, and for the permissions of the files
that they make. The directory is known by the path on which it was reached, links included, unless
the path without links is asked for.
-/

namespace ValidityTables.Shell.Builtins.Places

open Run

/-- Whether the path without links is asked for: the last of the options decides. -/
def readPhysical (arguments : List Octets) : Run (Bool × List Octets) := do
  let (options, rest) ← readOptions [('L', false), ('P', false)] arguments
  return ((options.getLast?.map (·.1)) = some 'P', rest)

def pathOf (place : Place) : Octets :=
  if place.isEmpty then ['/'] else place.flatMap ('/' :: ·)

/-- The path that is reached from another one by following names, where two dots take the last
name off. Exactly two slashes at the start are kept. -/
def joinPaths (start path : Octets) : Octets :=
  let names := if FileTree.isAbsolute path then [] else (start.splitOn '/').filter (!·.isEmpty)
  let more := (path.splitOn '/').filter (!·.isEmpty)
  let first := if FileTree.isAbsolute path then path else start
  let extra : Octets := if (first.takeWhile (· == '/')).length = 2 then ['/'] else []
  extra ++ pathOf (more.foldl (fun (names : Place) name =>
    if name = ['.'] then names
    else if name = ['.', '.'] then names.dropLast
    else names ++ [name]) names)

def directory? (state : State) (path : Octets) : Option Place :=
  match state.world.tree.resolve (state.descriptors.map (·.1)) state.directory path with
  | .ok (.present place .directory) => some place
  | _ => none

def goTo (physical : Bool) (path : Octets) : Run Bool := do
  let state ← get
  let path := if physical then path else joinPaths state.path path
  match directory? state path with
  | none => return false
  | some place => do
    let shown := if physical then pathOf place else path
    let old := state.path
    modify fun state => { state with directory := place, path := shown }
    setVariable "OLDPWD".toList old true
    setVariable "PWD".toList shown true
    return true

/-- Whether a path names a directory without the help of a list of directories. -/
def isDirect (path : Octets) : Bool :=
  path.head? = some '/' || [['.'], ['.', '.']].contains (path.takeWhile (· != '/'))

/-- The first of several directories in which there is one of the given name: its path, and whether
it has to be shown. -/
def searchDirectory (state : State) (name : Octets) : List Octets → Option (Octets × Bool)
  | [] => none
  | start :: rest =>
    let path := if start.isEmpty then name else start ++ '/' :: name
    if (directory? state path).isSome then some (path, !start.isEmpty)
    else searchDirectory state name rest

def changeDirectory : Builtin := fun arguments => do
  let (physical, rest) ← readPhysical arguments
  let state ← get
  let goesBack := rest.head? = some ['-']
  let target := match rest with
    | [] => (state.valueOf? "HOME".toList).getD []
    | target :: _ => if goesBack then (state.valueOf? "OLDPWD".toList).getD [] else target
  let found := if isDirect target then none
    else (state.valueOf? "CDPATH".toList).bind fun directories =>
      searchDirectory state (if target.isEmpty then ['.'] else target) (directories.splitOn ':')
  let (path, shown) := found.getD (target, false)
  let path := if path.isEmpty then ['.'] else path
  if !(← goTo physical path) then fail ("can't cd to ".toList ++ target)
  if goesBack || shown then printLine (← get).path
  return 0

def showDirectory : Builtin := fun arguments => do
  let (physical, _) ← readPhysical arguments
  let state ← get
  printLine (if physical then pathOf state.directory else state.path)
  return 0

def lettersOf (bits : Nat) : Octets :=
  (if bits &&& 4 = 0 then ['r'] else []) ++ (if bits &&& 2 = 0 then ['w'] else []) ++
    (if bits &&& 1 = 0 then ['x'] else [])

/-- Changes a mask by a clause such as `g+w`. -/
def applyClause (mask : Nat) (clause : Octets) : Option Nat := do
  let users := clause.takeWhile ("ugoa".toList.contains ·)
  let users := if users.isEmpty then ['a'] else users
  let classes := (if users.any ("ua".toList.contains ·) then 64 else 0) +
    (if users.any ("ga".toList.contains ·) then 8 else 0) +
    (if users.any ("oa".toList.contains ·) then 1 else 0)
  match clause.dropWhile ("ugoa".toList.contains ·) with
  | operator :: letters =>
    if !letters.all ("rwxX".toList.contains ·) then none
    let bits := (if letters.contains 'r' then 4 else 0) + (if letters.contains 'w' then 2 else 0) +
      (if letters.any ("xX".toList.contains ·) then 1 else 0)
    let chosen := classes * bits
    let allowed := 511 - mask
    match operator with
    | '+' => some (511 - (allowed ||| chosen))
    | '-' => some (511 - (allowed &&& (511 - chosen)))
    | '=' => some (511 - ((allowed &&& (511 - classes * 7)) ||| chosen))
    | _ => none
  | [] => none

def setMask : Builtin := fun arguments => do
  let (options, rest) ← readOptions [('S', false)] arguments
  let mask := (← get).mask
  match rest with
  | [] =>
    let (user, group, others) := (mask / 64 % 8, mask / 8 % 8, mask % 8)
    if options.isEmpty then
      printLine ('0' :: [user, group, others].flatMap Octets.ofNat)
    else
      printLine ("u=".toList ++ lettersOf user ++ ",g=".toList ++ lettersOf group ++
        ",o=".toList ++ lettersOf others)
  | text :: _ =>
    if (text.head?.map Char.isDigit).getD false then
      if !text.all (Number.isDigitOf 8) then failNumber text
      modify fun state => { state with mask := Number.ofDigits 8 text % 512 }
    else
      match (text.splitOn ',').foldlM applyClause mask with
      | some mask => modify fun state => { state with mask }
      | none => fail ("Illegal mode: ".toList ++ text)
  return 0

end ValidityTables.Shell.Builtins.Places
