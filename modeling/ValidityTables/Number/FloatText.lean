import ValidityTables.Number.Floating
import ValidityTables.Text.Octets

/-!
# Writing floating-point numbers

The digits of a floating-point number with a given number of places: positional, with an exponent,
the shorter of the two, or hexadecimal. Digits are those of the exact value, rounded to the nearest,
a half to the even digit.
-/

namespace ValidityTables.Number

/-- Digits with a point before the last so many of them. The point is left out where nothing follows
it, unless it is asked for. -/
def placePoint (always : Bool) (places : Nat) (digits : Octets) : Octets :=
  let digits := List.replicate (places + 1 - digits.length) '0' ++ digits
  let whole := digits.length - places
  if places = 0 then (if always then digits ++ ['.'] else digits)
  else digits.take whole ++ '.' :: digits.drop whole

def scaledByTen (significand : Nat) (exponent tens : Int) : Nat × Nat :=
  let (n, d) := scale significand 1 (-exponent)
  match tens with
  | .ofNat k => (n * Nat.pow 10 k, d)
  | .negSucc k => (n, d * Nat.pow 10 (k + 1))

/-- Places after which there are only zeros, if the first digit has the given exponent. -/
def exactPlaces (first exponent : Int) : Nat := (first + max 0 (-exponent)).toNat

def zeros (places : Nat) : Octets := List.replicate places '0'

def fixedText (always : Bool) (places significand : Nat) (exponent : Int) : Octets :=
  let exact := min places (exactPlaces 0 exponent)
  let (n, d) := scaledByTen significand exponent exact
  placePoint always places (Octets.ofNat (divideToEven n d) ++ zeros (places - exact))

def digitCount (n : Nat) : Nat := if n = 0 then 0 else (Octets.ofNat n).length

def decimalExponent (significand : Nat) (exponent : Int) : Int :=
  let (n, d) := scale significand 1 (-exponent)
  if n ≥ d then digitCount (n / d) - 1 else -(digitCount ((d - 1) / n) : Nat)

def significantDigits (places significand : Nat) (exponent : Int) : Octets × Int :=
  if significand = 0 then (zeros (places + 1), 0)
  else
    let first := decimalExponent significand exponent
    let exact := min places (exactPlaces first exponent)
    let (n, d) := scaledByTen significand exponent (exact - first)
    let digits := divideToEven n d
    let (digits, first) := if digits == Nat.pow 10 (exact + 1) then (digits / 10, first + 1)
      else (digits, first)
    (Octets.ofNat digits ++ zeros (places - exact), first)

def exponentText (letter : Char) (width : Nat) (exponent : Int) : Octets :=
  let digits := Octets.ofNat exponent.natAbs
  letter :: (if exponent < 0 then '-' else '+') ::
    (List.replicate (width - digits.length) '0' ++ digits)

def scientificText (always : Bool) (places significand : Nat) (exponent : Int) : Octets :=
  let (digits, first) := significantDigits places significand exponent
  placePoint always places digits ++ exponentText 'e' 2 first

def dropTrailingZeros (digits : Octets) : Octets :=
  if digits.contains '.' then
    match (digits.reverse.dropWhile (· == '0')) with
    | '.' :: rest => rest.reverse
    | rest => rest.reverse
  else digits

/-- So many digits, with an exponent only where the positional form would be long. -/
def generalText (always : Bool) (digits significand : Nat) (exponent : Int) : Octets :=
  let digits := max digits 1
  let (shown, first) := significantDigits (digits - 1) significand exponent
  let trim (text : Octets) : Octets := if always then text else dropTrailingZeros text
  if first < -4 ∨ first ≥ digits then
    trim (placePoint always (digits - 1) shown) ++ exponentText 'e' 2 first
  else trim (fixedText always (digits - 1 - first).toNat significand exponent)

/-- Hexadecimal digits of a number: how many bits the digit before the point has, and how many
digits stand after it. -/
structure HexShape where
  leadingBits : Nat
  places : Nat
  deriving DecidableEq, Repr

def FloatFormat.hexShape (format : FloatFormat) : HexShape :=
  let places := (format.precision - 1) / 4
  ⟨format.precision - 4 * places, places⟩

def hexText (format : FloatFormat) (always : Bool) (places : Option Nat) (significand : Nat)
    (exponent : Int) : Octets :=
  let shape := format.hexShape
  let exact := min (places.getD shape.places) shape.places
  let digits := divideToEven significand (1 <<< (4 * (shape.places - exact)))
  let carried := digits == 1 <<< (4 * (exact + 1))
  let digits := if carried then digits / 16 else digits
  let point := exponent + 4 * shape.places + if carried then 4 else 0
  let shown := match places with
    | none =>
      let short := dropTrailingZeros (placePoint always exact (Nat.toDigits 16 digits))
      if always && !short.contains '.' then short ++ ['.'] else short
    | some places =>
      placePoint always places (Nat.toDigits 16 digits ++ zeros (places - exact))
  '0' :: 'x' :: shown ++ exponentText 'p' 1 (if significand = 0 then 0 else point)

end ValidityTables.Number
