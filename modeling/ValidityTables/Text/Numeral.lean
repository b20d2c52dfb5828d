import ValidityTables.Text.Digit

/-!
# Numerals with bounds

Decimal numerals of ASCII digits, read from the left into a bounded range. The first fault met
decides: a character that is no digit, or a prefix whose value is out of range.
-/

namespace ValidityTables.Text

inductive NumeralFault
  | empty
  | invalidDigit
  | tooLarge
  | tooSmall
  deriving DecidableEq, Repr

def NumeralFault.message : NumeralFault → String
  | .empty => "cannot parse integer from empty string"
  | .invalidDigit => "invalid digit found in string"
  | .tooLarge => "number too large to fit in target type"
  | .tooSmall => "number too small to fit in target type"

/-- Continues a numeral whose digits so far have the value `value`; `fault` is the fault of leaving
the range up to `max`. -/
def readDigits (fault : NumeralFault) (max value : Nat) : List Char → Except NumeralFault Nat
  | [] => .ok value
  | c :: rest =>
    match digitValue? c with
    | none => .error .invalidDigit
    | some d =>
      if value * 10 + d ≤ max then readDigits fault max (value * 10 + d) rest else .error fault

def readMagnitude (fault : NumeralFault) (max : Nat) : List Char → Except NumeralFault Nat
  | [] => .error .invalidDigit
  | cs => readDigits fault max 0 cs

/-- A natural number up to `max`, with an optional plus sign. -/
def readNat (max : Nat) : List Char → Except NumeralFault Nat
  | [] => .error .empty
  | '+' :: cs => readMagnitude .tooLarge max cs
  | cs => readMagnitude .tooLarge max cs

/-- An integer of `bits + 1` bits in two's complement, with an optional sign. -/
def readInt (bits : Nat) : List Char → Except NumeralFault Int
  | [] => .error .empty
  | '-' :: cs => (readMagnitude .tooSmall (1 <<< bits) cs).map fun n => -(n : Int)
  | '+' :: cs => (readMagnitude .tooLarge ((1 <<< bits) - 1) cs).map fun n => (n : Int)
  | cs => (readMagnitude .tooLarge ((1 <<< bits) - 1) cs).map fun n => (n : Int)

end ValidityTables.Text
