import ValidityTables.Number.FloatText
import ValidityTables.Number.Notation

/-!
# Directives of formats

How one value of a format is written: its flags, its width and its precision.
-/

namespace ValidityTables

structure Directive where
  leftAligned : Bool := false
  zeroPadded : Bool := false
  plusSign : Bool := false
  blankSign : Bool := false
  alternate : Bool := false
  width : Nat := 0
  precision : Option Nat := none
  deriving DecidableEq, Repr

namespace Directive

def addFlag (directive : Directive) : Char → Directive
  | '-' => { directive with leftAligned := true }
  | '0' => { directive with zeroPadded := true }
  | '+' => { directive with plusSign := true }
  | ' ' => { directive with blankSign := true }
  | '#' => { directive with alternate := true }
  | _ => directive

def setWidth (directive : Directive) (width : Int) : Directive :=
  { directive with
    leftAligned := directive.leftAligned || width < 0
    width := width.natAbs }

/-- Fills a value up to the width, with zeros after its sign if `zeros` allows it. -/
def fill (directive : Directive) (zeros : Bool) (sign body : Octets) : Octets :=
  let missing := directive.width - (sign.length + body.length)
  if directive.leftAligned then sign ++ body ++ List.replicate missing ' '
  else if zeros && directive.zeroPadded then sign ++ List.replicate missing '0' ++ body
  else List.replicate missing ' ' ++ sign ++ body

def sign (directive : Directive) (negative : Bool) : Octets :=
  if negative then ['-'] else if directive.plusSign then ['+']
  else if directive.blankSign then [' '] else []

def text (directive : Directive) (value : Octets) : Octets :=
  directive.fill false [] (match directive.precision with
    | some n => value.take n
    | none => value)

/-- At least as many digits as the precision says, and none for zero where it is zero. -/
def digits (directive : Directive) (base n : Nat) : Octets :=
  let digits := if n = 0 ∧ directive.precision = some 0 then [] else Number.toDigits base n
  List.replicate (directive.precision.getD 1 - digits.length) '0' ++ digits

def signed (directive : Directive) (n : Int) : Octets :=
  directive.fill directive.precision.isNone (directive.sign (n < 0))
    (directive.digits 10 n.natAbs)

def unsigned (directive : Directive) (letter : Char) (n : Nat) : Octets :=
  let zeros := directive.precision.isNone
  match letter with
  | 'o' =>
    let digits := directive.digits 8 n
    let marked := directive.alternate && digits.head? != some '0'
    directive.fill zeros [] (if marked then '0' :: digits else digits)
  | 'u' => directive.fill zeros [] (directive.digits 10 n)
  | _ =>
    let mark : Octets := if directive.alternate && n != 0 then ['0', 'x'] else []
    let shown := directive.fill zeros mark (directive.digits 16 n)
    if letter = 'X' then shown.map Char.toUpper else shown

def floatDigits (directive : Directive) (format : Number.FloatFormat) (letter : Char)
    (significand : Nat) (exponent : Int) : Octets :=
  let always := directive.alternate
  let places := directive.precision.getD 6
  match letter with
  | 'a' => Number.hexText format always directive.precision significand exponent
  | 'e' => Number.scientificText always places significand exponent
  | 'f' => Number.fixedText always places significand exponent
  | _ => Number.generalText always places significand exponent

def float (directive : Directive) (format : Number.FloatFormat) (letter : Char)
    (value : Number.Floating) : Octets :=
  let sign := directive.sign value.negative
  let shown := match value.magnitude with
    | .infinite => directive.fill false sign "inf".toList
    | .notANumber => directive.fill false sign "nan".toList
    | .finite significand exponent =>
      let digits := directive.floatDigits format letter.toLower significand exponent
      if letter.toLower = 'a' then
        directive.fill true (sign ++ digits.take 2) (digits.drop 2)
      else directive.fill true sign digits
  if letter.isUpper then shown.map Char.toUpper else shown

end Directive

end ValidityTables
