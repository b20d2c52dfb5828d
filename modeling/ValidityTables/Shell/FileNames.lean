import ValidityTables.Shell.Pattern
import ValidityTables.Shell.State

/-!
# Patterns of file names

A word with patterns stands for the names of the files that it matches, in the order of their bytes.
A dot at the start of a name has to be matched by a dot.
-/

namespace ValidityTables.Shell.FileNames

def components (pattern : List PatternChar) : List (List PatternChar) :=
  pattern.splitOnP (·.char == '/')

def namesAt (state : State) (path : Octets) : List Octets :=
  let path := if path.isEmpty then ['.'] else path
  match state.world.tree.resolve (state.descriptors.map (·.1)) state.directory path with
  | .ok (.present place .directory) => ['.'] :: ['.', '.'] :: state.world.tree.namesIn place
  | _ => []

def isThere (state : State) (path : Octets) : Bool :=
  match state.world.tree.resolve (state.descriptors.map (·.1)) state.directory path false with
  | .ok (.present _ _) => true
  | _ => false

def selects (component : List PatternChar) (name : Octets) : Bool :=
  (name.head? != some '.' || (component.head?.map (·.char)) = some '.') &&
    Pattern.matchesText component name

def pathsFrom (state : State) (starts : List Octets) : List (List PatternChar) → List Octets
  | [] => starts
  | component :: rest =>
    let names (start : Octets) : List Octets :=
      if Pattern.isPattern component then
        (namesAt state start).filter (selects component)
      else [component.map (·.char)]
    let found := starts.flatMap fun start => (names start).map (start ++ ·)
    match rest with
    | [] => found.filter (isThere state)
    | _ => pathsFrom state (found.map (· ++ ['/'])) rest

def sort (texts : List Octets) : List Octets := texts.mergeSort Octets.precedes

def expand (state : State) (pattern : List PatternChar) : List Octets :=
  if Pattern.isPattern pattern then
    sort (pathsFrom state [[]] (components (Pattern.applyBackslashes pattern)))
  else []

end ValidityTables.Shell.FileNames
