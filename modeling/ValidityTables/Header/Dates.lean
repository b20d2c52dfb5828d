import ValidityTables.Error
import ValidityTables.Header
import ValidityTables.Text.Blank
import ValidityTables.Text.Digit

/-!
# The dates of a header

A date is accepted if a timestamp occurs in it, with digits of any script. Whether there is such a
day in the calendar is left to the store.
-/

namespace ValidityTables

open Text

def timestampPattern : List (Char → Bool) :=
  let d := isDigit
  [d, d, d, d, (· == '-'), d, d, (· == '-'), d, d, (· == ' '), d, d, (· == ':'), d, d, (· == ':'),
    d, d]

def startsWithClasses : List (Char → Bool) → List Char → Bool
  | [], _ => true
  | _ :: _, [] => false
  | p :: ps, c :: cs => p c && startsWithClasses ps cs

def hasTimestamp : List Char → Bool
  | [] => false
  | c :: cs => startsWithClasses timestampPattern (c :: cs) || hasTimestamp cs

/-- Checks the dates of a header in order; `line` is what a fault reports beside the date. -/
def Header.checkDates (header : Header) (line : String) : Except BlockError Unit :=
  match [header.validFrom, header.validTo, header.created].find? (!hasTimestamp ·.toList) with
  | none => .ok ()
  | some date => .error (.badDate date (edit trim line))

end ValidityTables
