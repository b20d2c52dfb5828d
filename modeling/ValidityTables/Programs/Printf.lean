import ValidityTables.Number.FloatReading
import ValidityTables.Programs.Directive
import ValidityTables.Programs.Escape
import ValidityTables.Programs.Program
import ValidityTables.Text.Quoted

/-!
# Formatted output

The program `printf` writes its arguments as a format says, and uses the format again as long as
there are arguments left. Arguments that are no numbers are reported, and the output goes on.
-/

namespace ValidityTables.PrintfProgram

structure Progress where
  pieces : List Octets := []
  reports : List Octets := []
  arguments : List Octets
  failed : Bool := false

abbrev Step (α : Type) : Type := ExceptT Nat (StateM Progress) α

def emit (text : Octets) : Step Unit := modify fun progress =>
  { progress with pieces := text :: progress.pieces }

def report (text : Octets) : Step Unit := modify fun progress =>
  { progress with reports := text :: progress.reports }

def stop {α : Type} (text : Octets) : Step α := do
  report text
  throw 1

/-- Reports something about an argument, which makes the program fail in the end. -/
def blame (argument : Octets) (text : String) : Step Unit := do
  report (Quoted.inApostrophes argument ++ text.toList)
  modify fun progress => { progress with failed := true }

def next? : Step (Option Octets) := do
  match (← get).arguments with
  | [] => return none
  | argument :: rest => do
    modify fun progress => { progress with arguments := rest }
    return some argument

def quotedCharacter? : Octets → Option (Char × Octets)
  | '"' :: c :: rest | '\'' :: c :: rest => some (c, rest)
  | _ => none

def reportIgnored (rest : Octets) : Step Unit :=
  if rest.isEmpty then pure ()
  else report ("warning: ".toList ++ rest ++
    ": character(s) following character constant have been ignored".toList)

def check (argument rest : Octets) (outOfRange : Bool) : Step Unit :=
  if outOfRange then blame argument ": Numerical result out of range"
  else if rest.isEmpty then pure ()
  else if rest = argument then blame argument ": expected a numeric value"
  else blame argument ": value not completely converted"

def integer (argument : Octets) (exceeds : Number.Reading → Bool) : Step Number.Reading := do
  match quotedCharacter? argument with
  | some (c, rest) => do
    reportIgnored rest
    return { magnitude := c.toNat, rest := [] }
  | none =>
    let reading := Number.read argument
    check argument reading.rest (exceeds reading)
    return reading

def signedArgument (argument : Octets) : Step Int :=
  return (← integer argument (·.exceedsSigned)).signed

def unsignedArgument (argument : Octets) : Step Nat :=
  return (← integer argument (·.exceedsUnsigned)).unsigned

def floatArgument (argument : Octets) : Step Number.Floating := do
  match quotedCharacter? argument with
  | some (c, rest) => do
    reportIgnored rest
    return Number.FloatFormat.extended.ofNat c.toNat
  | none =>
    let reading := Number.readFloat .extended argument
    check argument reading.rest reading.outOfRange
    return reading.value

/-- The character with a number, where only ASCII characters can be written as they are. -/
def universalText (n : Nat) : Octets :=
  let digits (count : Nat) : Octets :=
    let shown := (Number.toDigits 16 n).map Char.toUpper
    List.replicate (count - shown.length) '0' ++ shown
  if n < 128 then [Char.ofNat n]
  else if n < 0x10000 then '\\' :: 'u' :: digits 4
  else '\\' :: 'U' :: digits 8

def isUniversal (n : Nat) : Bool :=
  !(n ≤ 0x9F && n != 0x24 && n != 0x40 && n != 0x60) && !(0xD800 ≤ n && n ≤ 0xDFFF)

def universal (letter : Char) (text : Octets) : Step Octets := do
  let count := if letter = 'u' then 4 else 8
  let digits := text.take count
  if digits.length < count ∨ !digits.all (Number.isDigitOf 16) then
    stop "missing hexadecimal number in escape".toList
  let n := Number.ofDigits 16 digits
  if !isUniversal n then
    let shown := digits.map Char.toLower
    stop ("invalid universal character name \\".toList ++ letter :: shown)
  emit (universalText n)
  return text.drop count

/-- Writes what follows a backslash, and gives the rest. In arguments a zero may stand before an
octal number. -/
def escape (inArgument : Bool) : Octets → Step Octets
  | [] => do
    emit ['\\']
    return []
  | 'x' :: cs => do
    match takeByte 16 2 cs with
    | (_, 0, _) => stop "missing hexadecimal number in escape".toList
    | (byte, _, rest) => do
      emit [byte]
      return rest
  | 'c' :: _ => throw 0
  | c :: cs => do
    if Number.isDigitOf 8 c then
      let (byte, _, rest) := takeByte 8 3 (if inArgument && c == '0' then cs else c :: cs)
      emit [byte]
      return rest
    else if c = 'u' ∨ c = 'U' then universal c cs
    else
      emit (match letterEscape? c with
        | some escaped => [escaped]
        | none => if c = '"' then [c] else if c = 'e' then [escapeCharacter] else ['\\', c])
      return cs

/-- Writes an argument with its escapes. Each step takes a character, which bounds their number. -/
def writeEscaped : Nat → Octets → Step Unit
  | 0, _ | _, [] => pure ()
  | bound + 1, '\\' :: cs => do writeEscaped bound (← escape true cs)
  | bound + 1, c :: cs => do
    emit [c]
    writeEscaped bound cs

structure Allowed where
  letters : List Char := "aAcdeEfFgGiosuxX".toList

def Allowed.without (allowed : Allowed) (letters : String) : Allowed :=
  ⟨allowed.letters.filter (!letters.toList.contains ·)⟩

def readFlags (directive : Directive) (allowed : Allowed) :
    Octets → Directive × Allowed × Octets
  | [] => (directive, allowed, [])
  | c :: cs =>
    if c = 'I' ∨ c = '\'' then readFlags directive (allowed.without "aAceEosxX") cs
    else if c = '#' then readFlags (directive.addFlag c) (allowed.without "cdisu") cs
    else if c = '0' then readFlags (directive.addFlag c) (allowed.without "cs") cs
    else if c = '-' ∨ c = '+' ∨ c = ' ' then readFlags (directive.addFlag c) allowed cs
    else (directive, allowed, c :: cs)

def fieldLimit : Int := 0x7FFFFFFF

def fieldArgument (kind : String) (fits : Int → Bool) : Step Int := do
  match ← next? with
  | none => return 0
  | some argument =>
    let n ← signedArgument argument
    if fits n then return n
    else stop (("invalid " ++ kind ++ ": ").toList ++ Quoted.inApostrophes argument)

def readWidth (directive : Directive) (text : Octets) : Step (Directive × Octets) := do
  match text with
  | '*' :: rest => do
    let width ← fieldArgument "field width" fun n => -fieldLimit - 1 ≤ n && n ≤ fieldLimit
    return (directive.setWidth width, rest)
  | _ =>
    let digits := text.takeWhile (Number.isDigitOf 10)
    return (directive.setWidth (Number.ofDigits 10 digits), text.drop digits.length)

def readPrecision (directive : Directive) (allowed : Allowed) (text : Octets) :
    Step (Directive × Allowed × Octets) := do
  match text with
  | '.' :: '*' :: rest => do
    let n ← fieldArgument "precision" (· ≤ fieldLimit)
    let precision := if n < 0 then none else some n.toNat
    return ({ directive with precision }, allowed.without "c", rest)
  | '.' :: rest =>
    let digits := rest.takeWhile (Number.isDigitOf 10)
    let precision := some (Number.ofDigits 10 digits)
    return ({ directive with precision }, allowed.without "c", rest.drop digits.length)
  | _ => return (directive, allowed, text)

def isSizeLetter (c : Char) : Bool := "lLhjtz".toList.contains c

/-- Writes an argument by a directive; a missing argument is empty. -/
def convert (directive : Directive) (letter : Char) : Step Unit := do
  let argument := (← next?).getD []
  match letter with
  | 'c' => emit (directive.text [argument.head?.getD '\x00'])
  | 's' => emit (directive.text argument)
  | 'd' | 'i' => do emit (directive.signed (← signedArgument argument))
  | 'o' | 'u' | 'x' | 'X' => do emit (directive.unsigned letter (← unsignedArgument argument))
  | _ => do emit (directive.float .extended letter (← floatArgument argument))

def conversion (text : Octets) : Step Octets := do
  match text with
  | '%' :: rest => do
    emit ['%']
    return rest
  | 'b' :: rest => do
    let argument := (← next?).getD []
    writeEscaped argument.length argument
    return rest
  | 'q' :: rest => do
    if let some argument := ← next? then emit (Quoted.forShell [] argument)
    return rest
  | _ => do
    let (directive, allowed, rest) := readFlags {} {} text
    let (directive, rest) ← readWidth directive rest
    let (directive, allowed, rest) ← readPrecision directive allowed rest
    let rest := rest.dropWhile isSizeLetter
    match rest with
    | letter :: rest =>
      if !allowed.letters.contains letter then
        stop ('%' :: text.take (text.length - rest.length) ++
          ": invalid conversion specification".toList)
      convert directive letter
      return rest
    | [] => stop ('%' :: text ++ ": invalid conversion specification".toList)

def useFormat : Nat → Octets → Step Unit
  | 0, _ | _, [] => pure ()
  | bound + 1, '%' :: cs => do useFormat bound (← conversion cs)
  | bound + 1, '\\' :: cs => do useFormat bound (← escape false cs)
  | bound + 1, c :: cs => do
    emit [c]
    useFormat bound cs

/-- Uses a format as long as it takes arguments and some are left. Each use but the last takes one,
which bounds their number. -/
def useAgain (format : Octets) : Nat → Step Unit
  | 0 => pure ()
  | bound + 1 => do
    let before := (← get).arguments.length
    useFormat format.length format
    match (← get).arguments with
    | [] => pure ()
    | argument :: rest =>
      if rest.length + 1 = before then
        report ("warning: ignoring excess arguments, starting with ".toList ++
          Quoted.inApostrophes argument)
      else useAgain format bound

def format (format : Octets) (arguments : List Octets) : Nat × Progress :=
  match (ExceptT.run (useAgain format (arguments.length + 1))).run { arguments } with
  | (.ok (), progress) => (if progress.failed then 1 else 0, progress)
  | (.error status, progress) => (status, progress)

def main (name : Octets) (arguments : List Octets) : Program Nat := do
  if arguments = ["--help".toList] ∨ arguments = ["--version".toList] then return 0
  let arguments := match arguments with
    | ['-', '-'] :: rest => rest
    | _ => arguments
  match arguments with
  | [] => do
    Program.complain name "missing operand".toList
    Program.referToHelp name
  | text :: arguments => do
    let (status, progress) := format text arguments
    progress.reports.reverse.forM (Program.complain name)
    Program.print name progress.pieces.reverse.flatten
    return status

end ValidityTables.PrintfProgram
