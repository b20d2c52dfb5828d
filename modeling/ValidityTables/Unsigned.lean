import ValidityTables.Text.Blank
import ValidityTables.Text.Numeral

/-!
# Unsigned values in signed columns

A column of signed 32-bit integers holds an unsigned value as the signed value with the same bits.
A row is converted field by field; its fields are what stands between commas.
-/

namespace ValidityTables

open Text

def maxSigned : Int := 2147483647

def wordCount : Int := 4294967296

/-- The text that replaces a field, if it is an integer above the signed range. Integers of more
than 128 bits are no integers. -/
def signedField? (field : List Char) : Option (List Char) :=
  match readInt 127 (trim field) with
  | .ok n => if n > maxSigned then some (toString (n - wordCount)).toList else none
  | .error _ => none

def convertUnsigned (row : String) : String × Nat :=
  let fields := row.toList.splitOn ','
  (String.ofList ([','].intercalate (fields.map fun field => (signedField? field).getD field)),
    fields.countP fun field => (signedField? field).isSome)

end ValidityTables
