import ValidityTables.Text.Octets

/-!
# Integers in several bases

Integers as they are written in programs: decimal, octal after a zero, hexadecimal after `0x`, with
blanks and a sign before them. A text may go on after the number; what follows is handed back.
-/

namespace ValidityTables.Number

def isBlank (c : Char) : Bool := c == ' ' || (9 ≤ c.toNat && c.toNat ≤ 13)

def digitValue (c : Char) : Nat :=
  if '0' ≤ c ∧ c ≤ '9' then c.toNat - 48
  else if 'a' ≤ c ∧ c ≤ 'f' then c.toNat - 87
  else if 'A' ≤ c ∧ c ≤ 'F' then c.toNat - 55
  else 16

def isDigitOf (base : Nat) (c : Char) : Bool := digitValue c < base

def ofDigits (base : Nat) (digits : Octets) : Nat :=
  digits.foldl (fun n c => n * base + digitValue c) 0

def toDigits (base n : Nat) : Octets := Nat.toDigits base n

def splitSign : Octets → Bool × Octets
  | '-' :: cs => (true, cs)
  | '+' :: cs => (false, cs)
  | cs => (false, cs)

structure Reading where
  negative : Bool := false
  magnitude : Nat := 0
  rest : Octets
  found : Bool := true

def Reading.value (reading : Reading) : Int :=
  if reading.negative then -reading.magnitude else reading.magnitude

def splitBase : Octets → Nat × Octets
  | '0' :: 'x' :: c :: cs | '0' :: 'X' :: c :: cs =>
    if isDigitOf 16 c then (16, c :: cs) else (8, ['0'])
  | '0' :: cs => (8, '0' :: cs)
  | cs => (10, cs)

/-- Reads the number that a text begins with. Where there is none, nothing is taken. -/
def read (text : Octets) : Reading :=
  let (negative, unsigned) := splitSign (text.dropWhile isBlank)
  let base := (splitBase unsigned).1
  let start := if base = 16 then unsigned.drop 2 else unsigned
  let digits := start.takeWhile (isDigitOf base)
  if digits.isEmpty then { rest := text, found := false }
  else { negative, magnitude := ofDigits base digits, rest := start.drop digits.length }

def readDecimal (text : Octets) : Reading :=
  let (negative, unsigned) := splitSign (text.dropWhile isBlank)
  let digits := unsigned.takeWhile (isDigitOf 10)
  if digits.isEmpty then { rest := text, found := false }
  else { negative, magnitude := ofDigits 10 digits, rest := unsigned.drop digits.length }

def signedLimit : Nat := UInt64.size / 2

/-- The value as a signed word, at the end of the range if it lies beyond it. -/
def Reading.signed (reading : Reading) : Int :=
  if reading.negative then -(min reading.magnitude signedLimit : Nat)
  else (min reading.magnitude (signedLimit - 1) : Nat)

def Reading.exceedsSigned (reading : Reading) : Bool := reading.signed != reading.value

/-- The value as an unsigned word; a negative one is counted back from the end of the range. -/
def Reading.unsigned (reading : Reading) : Nat :=
  if reading.magnitude ≥ UInt64.size then UInt64.size - 1
  else if reading.negative then (UInt64.size - reading.magnitude) % UInt64.size
  else reading.magnitude

def Reading.exceedsUnsigned (reading : Reading) : Bool := reading.magnitude ≥ UInt64.size

end ValidityTables.Number
