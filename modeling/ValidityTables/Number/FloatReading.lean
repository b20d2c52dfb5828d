import ValidityTables.Number.Floating
import ValidityTables.Number.Notation

/-!
# Reading floating-point numbers

Numbers with a fraction and an exponent, in decimal or hexadecimal digits, and the names of the
values that are no numbers. A text may go on after the number.
-/

namespace ValidityTables.Number

structure FloatReading where
  value : Floating := .zero
  rest : Octets
  outOfRange : Bool := false

def splitExponent (letter : Char) (text : Octets) : Int × Octets :=
  match text with
  | c :: cs =>
    let (negative, unsigned) := splitSign cs
    let digits := unsigned.takeWhile (isDigitOf 10)
    if c.toLower = letter && !digits.isEmpty then
      let n : Int := ofDigits 10 digits
      (if negative then -n else n, unsigned.drop digits.length)
    else (0, text)
  | [] => (0, text)

def splitDigits (base : Nat) (text : Octets) : Option (Octets × Nat × Octets) :=
  let whole := text.takeWhile (isDigitOf base)
  match text.drop whole.length with
  | '.' :: cs =>
    let fraction := cs.takeWhile (isDigitOf base)
    if whole.isEmpty && fraction.isEmpty then none
    else some (whole ++ fraction, fraction.length, cs.drop fraction.length)
  | rest => if whole.isEmpty then none else some (whole, 0, rest)

/-- Exponents beyond this are far out of the range of all formats. -/
def farExponent : Int := 40000

def roundPower (format : FloatFormat) (digits : Nat) (base : Nat) (exponent : Int) : Rounded :=
  if digits = 0 then { magnitude := .finite 0 0 }
  else if exponent > farExponent then { magnitude := .infinite, outOfRange := true }
  else if exponent < -(farExponent + digits.log2) then
    { magnitude := .finite 0 0, outOfRange := true }
  else match exponent with
    | .ofNat n => format.round (digits * Nat.pow base n) 1
    | .negSucc n => format.round digits (Nat.pow base (n + 1))

def readDecimalFloat (format : FloatFormat) (text : Octets) : Option (Rounded × Octets) :=
  (splitDigits 10 text).map fun (digits, places, rest) =>
    let (exponent, rest) := splitExponent 'e' rest
    (roundPower format (ofDigits 10 digits) 10 (exponent - places), rest)

def readHexFloat (format : FloatFormat) (text : Octets) : Option (Rounded × Octets) :=
  (splitDigits 16 text).map fun (digits, places, rest) =>
    let (exponent, rest) := splitExponent 'p' rest
    (roundPower format (ofDigits 16 digits) 2 (exponent - 4 * places), rest)

def dropTag (text : Octets) : Octets :=
  match text with
  | '(' :: cs =>
    let tag := cs.takeWhile fun c => c.isAlphanum || c == '_'
    match cs.drop tag.length with
    | ')' :: rest => rest
    | _ => text
  | _ => text

def readNamed (text : Octets) : Option (Magnitude × Octets) :=
  let lower := (text.take 8).map Char.toLower
  if "infinity".toList.isPrefixOf lower then some (.infinite, text.drop 8)
  else if "inf".toList.isPrefixOf lower then some (.infinite, text.drop 3)
  else if "nan".toList.isPrefixOf lower then some (.notANumber, dropTag (text.drop 3))
  else none

def readUnsignedFloat (format : FloatFormat) (text : Octets) : Option (Rounded × Octets) :=
  match readNamed text with
  | some (magnitude, rest) => some ({ magnitude }, rest)
  | none =>
    let hex := match text with
      | '0' :: 'x' :: cs | '0' :: 'X' :: cs => readHexFloat format cs
      | _ => none
    match hex with
    | some found => some found
    | none => readDecimalFloat format text

def readFloat (format : FloatFormat) (text : Octets) : FloatReading :=
  let (negative, unsigned) := splitSign (text.dropWhile isBlank)
  match readUnsignedFloat format unsigned with
  | none => { rest := text }
  | some (rounded, rest) =>
    { value := ⟨negative, rounded.magnitude⟩, rest, outOfRange := rounded.outOfRange }

end ValidityTables.Number
