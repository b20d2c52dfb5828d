import ValidityTables.Programs.Escape
import ValidityTables.Programs.Program

/-!
# Repeating arguments

The program `echo` writes its arguments. Letters before them leave out the line end, and turn the
escapes on or off.
-/

namespace ValidityTables.EchoProgram

structure Choices where
  lineEnd : Bool := true
  escapes : Bool := false

def Choices.add (choices : Choices) : Char → Choices
  | 'n' => { choices with lineEnd := false }
  | 'e' => { choices with escapes := true }
  | _ => { choices with escapes := false }

def readChoices (choices : Choices) : List Octets → Choices × List Octets
  | ('-' :: c :: cs) :: arguments =>
    if (c :: cs).all (['n', 'e', 'E'].contains ·) then
      readChoices ((c :: cs).foldl Choices.add choices) arguments
    else (choices, ('-' :: c :: cs) :: arguments)
  | arguments => (choices, arguments)

/-- What follows a backslash: its text, or none if all output ends here, and the rest. -/
def escape : Octets → Option Octets × Octets
  | [] => (some ['\\'], [])
  | 'c' :: _ => (none, [])
  | 'e' :: cs => (some [escapeCharacter], cs)
  | 'x' :: cs =>
    match takeByte 16 2 cs with
    | (_, 0, _) => (some ['\\', 'x'], cs)
    | (byte, _, rest) => (some [byte], rest)
  | '0' :: cs =>
    let (byte, _, rest) := takeByte 8 3 cs
    (some [byte], rest)
  | c :: cs =>
    match takeByte 8 3 (c :: cs), letterEscape? c with
    | (byte, _ + 1, rest), _ => (some [byte], rest)
    | _, some escaped => (some [escaped], cs)
    | _, none => (some ['\\', c], cs)

/-- A text with its escapes expanded, and whether output ends with it. `out` comes last first, and
each step takes a character, which bounds their number. -/
def expandFrom (out : Octets) : Nat → Octets → Octets × Bool
  | 0, _ | _, [] => (out.reverse, false)
  | bound + 1, '\\' :: cs =>
    match escape cs with
    | (none, _) => (out.reverse, true)
    | (some text, rest) => expandFrom (text.reverse ++ out) bound rest
  | bound + 1, c :: cs => expandFrom (c :: out) bound cs

def expand (text : Octets) : Octets × Bool := expandFrom [] text.length text

def output (choices : Choices) (arguments : List Octets) : Octets :=
  let text := [' '].intercalate arguments
  let lineEnd : Octets := if choices.lineEnd then ['\n'] else []
  if choices.escapes then
    match expand text with
    | (text, true) => text
    | (text, false) => text ++ lineEnd
  else text ++ lineEnd

def main (name : Octets) (arguments : List Octets) : Program Nat := do
  if arguments = ["--help".toList] ∨ arguments = ["--version".toList] then return 0
  let (choices, arguments) := readChoices {} arguments
  Program.print name (output choices arguments)
  return 0

end ValidityTables.EchoProgram
