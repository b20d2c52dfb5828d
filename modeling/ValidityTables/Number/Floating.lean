/-!
# Binary floating-point numbers

Numbers with a bounded count of binary digits, and how a quotient is rounded to one of them: to the
nearest, and to the even one of two that are equally near.
-/

namespace ValidityTables.Number

/-- A range of numbers: how many binary digits they have, the exponent of the last digit of the
smallest ones, and the power of two that they stay below. -/
structure FloatFormat where
  precision : Nat
  leastExponent : Int
  limit : Int
  deriving DecidableEq, Repr

def FloatFormat.double : FloatFormat := ⟨53, -1074, 1024⟩

def FloatFormat.extended : FloatFormat := ⟨64, -16445, 16384⟩

inductive Magnitude
  | finite (significand : Nat) (exponent : Int)
  | infinite
  | notANumber
  deriving DecidableEq, Repr

structure Floating where
  negative : Bool := false
  magnitude : Magnitude
  deriving DecidableEq, Repr

def Floating.zero : Floating := { magnitude := .finite 0 0 }

/-- A quotient rounded to a whole number, a half to the even one. -/
def divideToEven (numerator denominator : Nat) : Nat :=
  let quotient := numerator / denominator
  let twice := 2 * (numerator % denominator)
  if twice > denominator || (twice == denominator && quotient % 2 == 1) then quotient + 1
  else quotient

def scale (numerator denominator : Nat) : Int → Nat × Nat
  | .ofNat n => (numerator, denominator <<< n)
  | .negSucc n => (numerator <<< (n + 1), denominator)

def leadingExponent (numerator denominator : Nat) : Int :=
  let guess : Int := numerator.log2 - denominator.log2
  let (n, d) := scale numerator denominator guess
  if n ≥ d then guess else guess - 1

/-- A rounded number, and whether it is out of range: too large, or so small that digits were
lost. -/
structure Rounded where
  magnitude : Magnitude
  outOfRange : Bool := false

def FloatFormat.round (format : FloatFormat) (numerator denominator : Nat) : Rounded :=
  if numerator = 0 then { magnitude := .finite 0 0 }
  else
    let leading := leadingExponent numerator denominator
    let exponent := max (leading - format.precision + 1) format.leastExponent
    let (n, d) := scale numerator denominator exponent
    let rounded := divideToEven n d
    let carried := rounded == 1 <<< format.precision
    let significand := if carried then 1 <<< (format.precision - 1) else rounded
    let exponent := if carried then exponent + 1 else exponent
    if exponent + format.precision > format.limit && significand ≥ 1 <<< (format.precision - 1) then
      { magnitude := .infinite, outOfRange := true }
    else
      let isSmall := significand < 1 <<< (format.precision - 1)
      { magnitude := .finite significand exponent, outOfRange := isSmall && n % d != 0 }

def FloatFormat.ofNat (format : FloatFormat) (n : Nat) : Floating :=
  { magnitude := (format.round n 1).magnitude }

end ValidityTables.Number
