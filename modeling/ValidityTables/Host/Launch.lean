import ValidityTables.Host.World

/-!
# Starting programs

How a program is found by its name, and what is run for a file: a program of the system, or the
interpreter that the first line of a script asks for.
-/

namespace ValidityTables.Launch

structure Image where
  program : String
  arguments : List Octets
  deriving Repr

def argumentLimit : Nat := 131071

def totalLimit : Nat := 2097152

def interpreterLimit : Nat := 5

def isBlank (c : Char) : Bool := c == ' ' || c == '\t'

def interpreter? (content : Octets) : Option (Octets × Option Octets) :=
  match content with
  | '#' :: '!' :: rest =>
    let line := (rest.takeWhile (· != '\n')).dropWhile isBlank
    let name := line.takeWhile (!isBlank ·)
    let argument := (line.drop name.length).dropWhile isBlank
    let argument := (argument.reverse.dropWhile isBlank).reverse
    if name.isEmpty then none else some (name, if argument.isEmpty then none else some argument)
  | _ => none

def runnable (world : World) (process : Process) (path : Octets) : Except SystemFault Node :=
  match world.tree.resolve (process.descriptors.map (·.1)) process.directory path with
  | .error fault => .error fault
  | .ok (.absent _) => .error .notFound
  | .ok (.present _ node) =>
    match node with
    | .file _ true | .program _ => .ok node
    | _ => .error .permissionDenied

def imageOf (world : World) (process : Process) : Nat → Octets → List Octets →
    Except SystemFault Image
  | 0, _, _ => .error .tooManyLinks
  | interpreters + 1, path, arguments =>
    match runnable world process path with
    | .error fault => .error fault
    | .ok (.program program) => .ok { program, arguments }
    | .ok (.file content _) =>
      match interpreter? content with
      | none => .error .notExecutable
      | some (name, argument) =>
        imageOf world process interpreters name
          (name :: argument.toList ++ path :: arguments.drop 1)
    | .ok _ => .error .permissionDenied

def image (world : World) (process : Process) (path : Octets) (arguments : List Octets) :
    Except SystemFault Image :=
  if arguments.any (·.length > argumentLimit) ||
      (arguments.map (·.length + 9)).foldl (· + ·) 0 > totalLimit then .error .argumentsTooLong
  else imageOf world process (interpreterLimit + 1) path arguments

def usualDirectories : Octets :=
  "/usr/local/sbin:/usr/local/bin:/usr/sbin:/usr/bin:/sbin:/bin".toList

def candidates (directories name : Octets) : List Octets :=
  if name.contains '/' then [name]
  else (directories.splitOn ':').map fun directory =>
    if directory.isEmpty then name else directory ++ '/' :: name

/-- Looks for a program under several paths. A path at which there is nothing is passed, and so is
one at which something cannot be run, but that is remembered. -/
def findAmong (world : World) (process : Process) (arguments : List Octets)
    (fault : SystemFault) : List Octets → Except SystemFault Image
  | [] => .error fault
  | path :: paths =>
    match image world process path arguments with
    | .ok image => .ok image
    | .error .notFound | .error .notDirectory => findAmong world process arguments fault paths
    | .error .permissionDenied => findAmong world process arguments .permissionDenied paths
    | .error fault => .error fault

def directories (process : Process) : Octets :=
  (process.environment.lookup "PATH".toList).getD usualDirectories

def find (world : World) (process : Process) (name : Octets) (arguments : List Octets) :
    Except SystemFault Image :=
  if name.isEmpty then .error .notFound
  else if name.contains '/' then image world process name (name :: arguments)
  else findAmong world process (name :: arguments) .notFound (candidates (directories process) name)

end ValidityTables.Launch
