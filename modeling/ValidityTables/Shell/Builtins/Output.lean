import ValidityTables.Number.FloatReading
import ValidityTables.Programs.Directive
import ValidityTables.Programs.Escape
import ValidityTables.Shell.Builtins.Options

/-!
# Output of built-in commands

The commands `echo` and `printf` of the shell. Their escapes and directives differ from those of the
programs with these names: escapes are always expanded, and all letters are fewer.
-/

namespace ValidityTables.Shell.Builtins.Output

open Run

/-- What follows a backslash in a format: its character, and the rest. A letter without a meaning
keeps its backslash. -/
def escape : Octets → Char × Octets
  | [] => ('\\', [])
  | 'e' :: cs => (escapeCharacter, cs)
  | c :: cs =>
    match takeByte 8 3 (c :: cs), letterEscape? c with
    | (byte, _ + 1, rest), _ => (byte, rest)
    | _, some escaped => (escaped, cs)
    | _, none => ('\\', c :: cs)

/-- What follows a backslash in a text, where a zero stands before an octal number; none if all
output ends here. -/
def escapeInText : Octets → Option (Char × Octets)
  | 'c' :: _ => none
  | '0' :: c :: cs => some (escape (if Number.isDigitOf 8 c then c :: cs else '0' :: c :: cs))
  | text => some (escape text)

/-- A text with its escapes expanded, and whether output ends with it. `out` comes last first, and
each step takes a character, which bounds their number. -/
def expandFrom (out : Octets) : Nat → Octets → Octets × Bool
  | 0, _ | _, [] => (out.reverse, false)
  | bound + 1, '\\' :: cs =>
    match escapeInText cs with
    | none => (out.reverse, true)
    | some (c, rest) => expandFrom (c :: out) bound rest
  | bound + 1, c :: cs => expandFrom (c :: out) bound cs

def expand (text : Octets) : Octets × Bool := expandFrom [] text.length text

def echoTexts (lineEnd : Bool) : List Octets → Run Unit
  | [] => if lineEnd then print ['\n'] else pure ()
  | text :: rest => do
    let (shown, stopped) := expand text
    print shown
    if stopped then return
    if !rest.isEmpty then print [' ']
    echoTexts lineEnd rest

def echo : Builtin := fun arguments => do
  match arguments with
  | ['-', 'n'] :: rest => echoTexts false rest
  | _ => echoTexts true arguments
  return 0

structure Progress where
  arguments : List Octets
  failed : Bool := false

/-- A step of formatting; its result is nothing where all output ends. -/
abbrev Formatting (α : Type) : Type := OptionT (StateT Progress Run) α

def lift {α : Type} (run : Run α) : Formatting α := OptionT.lift (StateT.lift run)

def next? : Formatting (Option Octets) := do
  match (← get).arguments with
  | [] => return none
  | argument :: rest => do
    modify fun progress => { progress with arguments := rest }
    return some argument

def blame (argument : Octets) (text : String) : Formatting Unit := do
  lift (warn (argument ++ ": ".toList ++ text.toList))
  modify fun progress => { progress with failed := true }

def check (argument rest : Octets) (outOfRange : Bool) : Formatting Unit :=
  if !rest.isEmpty then
    blame argument
      (if rest = argument then "expected numeric value" else "not completely converted")
  else if outOfRange then blame argument "Numerical result out of range"
  else pure ()

def quotedCharacter? : Octets → Option Char
  | '"' :: rest | '\'' :: rest => some (rest.head?.getD '\x00')
  | _ => none

def integerArgument (exceeds : Number.Reading → Bool) : Formatting Number.Reading := do
  match ← next? with
  | none => return { rest := [] }
  | some argument =>
    match quotedCharacter? argument with
    | some c => return { magnitude := c.toNat, rest := [] }
    | none => do
      let reading := Number.read argument
      check argument reading.rest (exceeds reading)
      return reading

def floatArgument : Formatting Number.Floating := do
  match ← next? with
  | none => return .zero
  | some argument =>
    match quotedCharacter? argument with
    | some c => return Number.FloatFormat.double.ofNat c.toNat
    | none => do
      let reading := Number.readFloat .double argument
      check argument reading.rest reading.outOfRange
      return reading.value

def fieldArgument : Formatting Int :=
  return Int.bmod (← integerArgument (·.exceedsSigned)).signed UInt32.size

def readFlags (directive : Directive) : Octets → Directive × Octets
  | [] => (directive, [])
  | c :: cs =>
    if "#-+ 0".toList.contains c then readFlags (directive.addFlag c) cs else (directive, c :: cs)

def readWidth (directive : Directive) (text : Octets) : Formatting (Directive × Octets) := do
  match text with
  | '*' :: rest => return (directive.setWidth (← fieldArgument), rest)
  | _ =>
    let digits := text.takeWhile (Number.isDigitOf 10)
    return (directive.setWidth (Number.ofDigits 10 digits), text.drop digits.length)

def readPrecision (directive : Directive) (text : Octets) : Formatting (Directive × Octets) := do
  match text with
  | '.' :: '*' :: rest => do
    let n ← fieldArgument
    return ({ directive with precision := if n < 0 then none else some n.toNat }, rest)
  | '.' :: rest =>
    let digits := rest.takeWhile (Number.isDigitOf 10)
    return ({ directive with precision := some (Number.ofDigits 10 digits) },
      rest.drop digits.length)
  | _ => return (directive, text)

def convert (directive : Directive) (letter : Char) : Formatting Unit := do
  match letter with
  | 'c' => do
    let argument := (← next?).getD []
    lift (print (directive.fill false [] [argument.head?.getD '\x00']))
  | 's' => do lift (print (directive.text ((← next?).getD [])))
  | 'b' => do
    let (text, stopped) := expand ((← next?).getD [])
    lift (print (directive.text text))
    if stopped then failure
  | 'd' | 'i' => do
    lift (print (directive.signed (← integerArgument (·.exceedsSigned)).signed))
  | 'o' | 'u' | 'x' | 'X' => do
    lift (print (directive.unsigned letter (← integerArgument (·.exceedsUnsigned)).unsigned))
  | _ => do lift (print (directive.float .double letter (← floatArgument)))

def conversion (text : Octets) : Formatting Octets := do
  let (directive, rest) := readFlags {} text
  let (directive, rest) ← readWidth directive rest
  let (directive, rest) ← readPrecision directive rest
  match rest with
  | [] => lift (fail "missing format character".toList)
  | letter :: rest => do
    if !"bcsdiouxXaAeEfFgG".toList.contains letter then
      lift (fail ('%' :: text.take (text.length - rest.length) ++ ": invalid directive".toList))
    convert directive letter
    return rest

def useFormat : Nat → Octets → Formatting Unit
  | 0, _ | _, [] => pure ()
  | bound + 1, '\\' :: cs => do
    let (c, rest) := escape cs
    lift (print [c])
    useFormat bound rest
  | bound + 1, '%' :: '%' :: cs => do
    lift (print ['%'])
    useFormat bound cs
  | bound + 1, '%' :: cs => do useFormat bound (← conversion cs)
  | bound + 1, c :: cs => do
    lift (print [c])
    useFormat bound cs

/-- Uses a format as long as it takes arguments and some are left. Each use but the last takes one,
which bounds their number. -/
def useAgain (format : Octets) : Nat → Formatting Unit
  | 0 => pure ()
  | bound + 1 => do
    let before := (← get).arguments.length
    useFormat format.length format
    let left := (← get).arguments.length
    if left = 0 ∨ left = before then pure () else useAgain format bound

def printf : Builtin := fun arguments => do
  match ← dropOptions arguments with
  | [] => fail "usage: printf format [arg ...]".toList
  | format :: arguments => do
    let (_, progress) ← ((useAgain format (arguments.length + 1)).run).run { arguments }
    return if progress.failed then 1 else 0

end ValidityTables.Shell.Builtins.Output
