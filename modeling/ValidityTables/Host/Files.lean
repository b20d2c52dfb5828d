import ValidityTables.Host.Fault
import ValidityTables.Text.Octets

/-!
# Files and paths

A tree of files, directories, links and devices, and how a path is followed in it: name by name from
the root or from the working directory, through links, with the limits on the lengths of names and
paths.
-/

namespace ValidityTables

/-- Where something stands: the names that lead to it from the root. -/
abbrev Place : Type := List Octets

inductive Device
  | null
  | full
  | terminal
  deriving DecidableEq, Repr

inductive Node
  | file (content : Octets) (executable : Bool)
  | directory
  | device (device : Device)
  | program (name : String)
  | link (path : Octets)
  | descriptor (number : Nat)
  deriving DecidableEq, Repr

structure FileTree where
  entries : List (Place × Node)

inductive Destination
  | present (place : Place) (node : Node)
  /-- There is nothing, but a file could be made. -/
  | absent (place : Place)
  deriving DecidableEq, Repr

namespace FileTree

def descriptorDirectory : Place := ["proc".toList, "self".toList, "fd".toList]

def node? (tree : FileTree) (descriptors : List Nat) (place : Place) : Option Node :=
  match place.getLast? with
  | none => some .directory
  | some name =>
    if place.dropLast = descriptorDirectory then
      (descriptors.find? fun number => Octets.ofNat number = name).map .descriptor
    else tree.entries.lookup place

def namesIn (tree : FileTree) (place : Place) : List Octets :=
  tree.entries.filterMap fun entry =>
    if entry.1.dropLast = place then entry.1.getLast? else none

def put (place : Place) (node : Node) (tree : FileTree) : FileTree :=
  ⟨(place, node) :: tree.entries.filter (·.1 != place)⟩

def remove (place : Place) (tree : FileTree) : FileTree :=
  ⟨tree.entries.filter (·.1 != place)⟩

def nameLimit : Nat := 255

def pathLimit : Nat := 4096

def linkLimit : Nat := 40

def isAbsolute (path : Octets) : Bool := path.head? = some '/'

/-- The names on a path. A slash at its end asks for a directory, as a dot does. -/
def namesOf (path : Octets) : List Octets :=
  let names := (path.splitOn '/').filter (!·.isEmpty)
  if path.getLast? = some '/' then names ++ [['.']] else names

inductive Progress
  | arrived (destination : Destination)
  | atLink (place : Place) (path : Octets) (names : List Octets)

/-- Follows names from a place up to the first link. A link at the end counts if `last` says so. -/
def walk (tree : FileTree) (descriptors : List Nat) (last : Bool) (place : Place) :
    List Octets → Except SystemFault Progress
  | [] =>
    match tree.node? descriptors place with
    | some node => .ok (.arrived (.present place node))
    | none => .error .notFound
  | name :: names =>
    match tree.node? descriptors place with
    | none => .error .notFound
    | some .directory =>
      if name = ['.'] then walk tree descriptors last place names
      else if name = ['.', '.'] then walk tree descriptors last place.dropLast names
      else if name.length > nameLimit then .error .nameTooLong
      else
        let next := place ++ [name]
        match tree.node? descriptors next with
        | none => if names.isEmpty then .ok (.arrived (.absent next)) else .error .notFound
        | some (.link path) =>
          if names.isEmpty && !last then .ok (.arrived (.present next (.link path)))
          else .ok (.atLink place path names)
        | some _ => walk tree descriptors last next names
    | some _ => .error .notDirectory

def follow (tree : FileTree) (descriptors : List Nat) (last : Bool) (place : Place)
    (names : List Octets) : Nat → Except SystemFault Destination
  | 0 => .error .tooManyLinks
  | links + 1 =>
    match tree.walk descriptors last place names with
    | .error fault => .error fault
    | .ok (.arrived destination) => .ok destination
    | .ok (.atLink place path rest) =>
      tree.follow descriptors last (if isAbsolute path then [] else place) (namesOf path ++ rest)
        links

def resolve (tree : FileTree) (descriptors : List Nat) (directory : Place) (path : Octets)
    (last : Bool := true) : Except SystemFault Destination :=
  if path.isEmpty then .error .notFound
  else if path.length ≥ pathLimit then .error .nameTooLong
  else
    tree.follow descriptors last (if isAbsolute path then [] else directory) (namesOf path)
      (linkLimit + 1)

def putFile (directory : Place) (path : Octets) (content : Octets) (tree : FileTree) : FileTree :=
  let start : Place := if isAbsolute path then [] else directory
  let place := (namesOf path).foldl (fun (place : Place) name =>
    if name = ['.'] then place
    else if name = ['.', '.'] then place.dropLast
    else place ++ [name]) start
  let above := (List.range place.length).map place.take
  let tree := above.foldl (fun (tree : FileTree) place =>
    if (tree.node? [] place).isSome then tree else tree.put place .directory) tree
  tree.put place (.file content true)

end FileTree

end ValidityTables
