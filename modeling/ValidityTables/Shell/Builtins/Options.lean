import ValidityTables.Number.Notation
import ValidityTables.Shell.State

/-!
# Arguments of built-in commands

Letters after a hyphen, some with a value, and numbers.
-/

namespace ValidityTables.Shell.Builtins

open Run

abbrev Builtin : Type := List Octets → Run Nat

/-- Reads the letters after a hyphen, of which some take a value: the rest of the letters, or the
next argument. -/
def readLetters (known : List (Char × Bool)) (next : List Octets) :
    Octets → Run (List (Char × Octets) × List Octets)
  | [] => return ([], next)
  | c :: cs => do
    match known.lookup c, cs, next with
    | none, _, _ => fail ("Illegal option -".toList ++ [c])
    | some false, _, _ => do
      let (options, next) ← readLetters known next cs
      return ((c, []) :: options, next)
    | some true, _ :: _, _ => return ([(c, cs)], next)
    | some true, [], value :: next => return ([(c, value)], next)
    | some true, [], [] => fail ("No arg for -".toList ++ [c] ++ " option".toList)

def readOptionsFrom (known : List (Char × Bool)) (bound : Nat) (arguments : List Octets) :
    Run (List (Char × Octets) × List Octets) := do
  match bound, arguments with
  | bound + 1, ('-' :: c :: cs) :: next =>
    if c :: cs = ['-'] then return ([], next)
    let (options, next) ← readLetters known next (c :: cs)
    let (more, rest) ← readOptionsFrom known bound next
    return (options ++ more, rest)
  | _, _ => return ([], arguments)

def readOptions (known : List (Char × Bool)) (arguments : List Octets) :
    Run (List (Char × Octets) × List Octets) :=
  readOptionsFrom known arguments.length arguments

def dropOptions (arguments : List Octets) : Run (List Octets) :=
  return (← readOptions [] arguments).2

def integer (text : Octets) : Run Int := do
  let reading := Number.readDecimal text
  if !reading.found || reading.exceedsSigned ||
      !(reading.rest.dropWhile Number.isBlank).isEmpty then failNumber text
  return reading.value

def countLimit : Int := 0x7FFFFFFF

def natural (text : Octets) : Run Nat := do
  let n ← integer text
  if n < 0 ∨ n > countLimit then failNumber text
  return n.toNat

end ValidityTables.Shell.Builtins
