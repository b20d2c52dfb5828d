import ValidityTables.Error
import ValidityTables.Header
import ValidityTables.Text.Blank
import ValidityTables.Text.Lowercase
import ValidityTables.Text.Numeral

/-!
# The options of a header line

The tail of a header line in lower case: an optional number, which is the task, and then options of
the form `key=value` between blanks. A later option replaces an earlier one, and the first fault met
is reported.
-/

namespace ValidityTables

open Text

structure Options where
  task : Int64 := 0
  simMask : SimMask := .data
  epoch : Option UInt8 := none
  deriving DecidableEq, Repr

namespace Options

def maxEpoch : Int := 100

/-- Splits at the last equals sign, when there is text on both sides of it. -/
def splitAssignment? (token : List Char) : Option (List Char × List Char) :=
  let value := (token.reverse.takeWhile (· != '=')).reverse
  let key := ((token.reverse.dropWhile (· != '=')).drop 1).reverse
  if '=' ∈ token ∧ key ≠ [] ∧ value ≠ [] then some (key, value) else none

def task? (value : List Char) : Option Int64 :=
  match readInt 63 value with
  | .ok n => some (Int64.ofInt n)
  | .error _ => none

def epoch? (value : List Char) : Option UInt8 :=
  match readInt 63 value with
  | .ok n => if 0 ≤ n ∧ n ≤ maxEpoch then some (UInt8.ofNat n.toNat) else none
  | .error _ => none

def valueOr {α : Type} (key value : List Char) : Option α → Except BlockError α
  | some a => .ok a
  | none => .error (.badValue (String.ofList key) (String.ofList value))

def set (options : Options) (key value : List Char) : Except BlockError Options :=
  if key = "task".toList then
    (valueOr key value (task? value)).map fun task => { options with task }
  else if key = "simmask".toList then
    (valueOr key value (SimMask.ofWord? value)).map fun simMask => { options with simMask }
  else if key = "epoch".toList then
    (valueOr key value (epoch? value)).map fun epoch => { options with epoch := some epoch }
  else .error (.unknownKey (String.ofList key))

/-- Sets the options given by a list of words. A word that is no assignment is reported with all
words after it. -/
def setAll (options : Options) : List (List Char) → Except BlockError Options
  | [] => .ok options
  | token :: rest =>
    match splitAssignment? token with
    | none => .error (.options (String.ofList ([' '].intercalate (token :: rest))))
    | some (key, value) =>
      match options.set key value with
      | .error e => .error e
      | .ok next => next.setAll rest

def splitNumber? (tail : List Char) : Option (List Char × List Char) :=
  let cs := trimStart tail
  match cs.takeWhile isDigit, cs.dropWhile isDigit with
  | [], _ => none
  | digits, [] => some (digits, [])
  | digits, c :: rest => if isBlank c then some (digits, rest) else none

def read (tail : List Char) : Except BlockError Options :=
  match splitNumber? tail with
  | none => setAll {} (words tail)
  | some (digits, rest) =>
    match valueOr "task".toList digits (task? digits) with
    | .error e => .error e
    | .ok task => setAll { task } (words rest)

end Options

end ValidityTables
