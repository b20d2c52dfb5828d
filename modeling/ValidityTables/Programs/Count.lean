import ValidityTables.Number.Notation
import ValidityTables.Programs.Options
import ValidityTables.Programs.Program
import ValidityTables.Text.Quoted

/-!
# Counting lines, words and bytes

The program `wc` counts what is in its input or in files, and the sum for several files.
-/

namespace ValidityTables.Count

inductive Choice
  | lines
  | words
  | characters
  | bytes
  | longest
  | total
  | help
  deriving DecidableEq, Repr

def rules : List (OptionRule Choice) :=
  [⟨some 'c', "bytes", false, .bytes⟩, ⟨some 'm', "chars", false, .characters⟩,
    ⟨some 'l', "lines", false, .lines⟩, ⟨some 'w', "words", false, .words⟩,
    ⟨some 'L', "max-line-length", false, .longest⟩, ⟨none, "total", true, .total⟩,
    ⟨none, "help", false, .help⟩, ⟨none, "version", false, .help⟩]

structure Counts where
  lines : Nat := 0
  words : Nat := 0
  bytes : Nat := 0
  longest : Nat := 0
  position : Nat := 0

def Counts.add (a b : Counts) : Counts where
  lines := a.lines + b.lines
  words := a.words + b.words
  bytes := a.bytes + b.bytes
  longest := max a.longest b.longest

def beginsWord (c : Char) : Bool := Quoted.isPrintable c && c != ' '

def positionAfter (position : Nat) (c : Char) : Nat :=
  if c == '\n' || c == '\r' || c.toNat = 12 then 0
  else if c == '\t' then position + (8 - position % 8)
  else if Quoted.isPrintable c then position + 1
  else position

/-- Counts what is in a text; `inWord` says whether a word has begun. -/
def countFrom (counts : Counts) (inWord : Bool) : Octets → Counts
  | [] =>
    { counts with
      words := if inWord then counts.words + 1 else counts.words
      longest := max counts.longest counts.position }
  | c :: cs =>
    let ends := Number.isBlank c
    let position := positionAfter counts.position c
    countFrom {
      lines := if c == '\n' then counts.lines + 1 else counts.lines
      words := if ends && inWord then counts.words + 1 else counts.words
      bytes := counts.bytes + 1
      longest := max counts.longest counts.position
      position } (!ends && (inWord || beginsWord c)) cs

def columns (chosen : List Choice) : List (Counts → Nat) :=
  let chosen := if chosen.isEmpty then [.lines, .words, .bytes] else chosen
  let column (choice : Choice) (count : Counts → Nat) : List (Counts → Nat) :=
    if chosen.contains choice then [count] else []
  column .lines (·.lines) ++ column .words (·.words) ++ column .characters (·.bytes) ++
    column .bytes (·.bytes) ++ column .longest (·.longest)

inductive Wish
  | automatic
  | always
  | only
  | never
  deriving DecidableEq, Repr

def Wish.named (text : Octets) : List Wish :=
  let wishes : List (String × Wish) :=
    [("auto", .automatic), ("always", .always), ("only", .only), ("never", .never)]
  wishes.filterMap fun (name, wish) => if text.isPrefixOf name.toList then some wish else none

def line (columns : List (Counts → Nat)) (width : Nat) (name : Option Octets) (counts : Counts) :
    Octets :=
  let shown := columns.map fun count =>
    let digits := Octets.ofNat (count counts)
    List.replicate (width - digits.length) ' ' ++ digits
  [' '].intercalate (shown ++ (name.map (Quoted.forShell [':'])).toList) ++ ['\n']

def openOperand (file : Option Octets) : Program (Except SystemFault Nat) :=
  match file with
  | none | some ['-'] => Program.channel 0
  | some [] => return .error .notFound
  | some file => Program.openFile file

def knownSize (id : Nat) (world : World) : Option Nat :=
  match world.channel? id with
  | some (.file place _ _) => some (world.content place).length
  | _ => none

/-- The width of the columns. It is that of the sum of the sizes, and wider for input of unknown
size. -/
def columnWidth (columns : Nat) (channels : List (Except SystemFault Nat)) (world : World) : Nat :=
  if channels.length ≤ 1 && columns = 1 then 1
  else
    let known := channels.filterMap fun channel => channel.toOption.map (knownSize · world)
    let total := (known.map (·.getD 0)).foldl (· + ·) 0
    max (Octets.ofNat total).length (if known.any (·.isNone) then 7 else 1)

def isInput (file : Option Octets) : Bool := file.isNone || file = some ['-']

def countOperand (name : Octets) (columns : List (Counts → Nat)) (width : Nat) (shown : Bool)
    (file : Option Octets) (channel : Except SystemFault Nat) : Program (Bool × Counts) := do
  let complain (fault : SystemFault) : Program Unit :=
    Program.complain name (if file = some [] then "invalid zero-length file name".toList
      else Quoted.forShell [':'] (file.getD "standard input".toList) ++ ": ".toList ++
        fault.text.toList)
  let content ← match channel with
    | .error fault => pure (.error fault)
    | .ok id => Program.takeAll id
  if let .error fault := content then complain fault
  let counts := countFrom {} false (content.toOption.getD [])
  if shown && (channel.toOption.isSome || isInput file) then
    Program.print name (line columns width file counts)
  return (content.toOption.isSome, counts)

def main (name : Octets) (arguments : List Octets) : Program Nat := do
  match OptionRule.read rules arguments with
  | .error message => do
    Program.complain name message
    Program.referToHelp name
  | .ok arguments => do
    let chosen := (arguments.options.map (·.1)).filter (· != .total)
    if chosen.contains .help then return 0
    let wish := (arguments.options.filter (·.1 = .total)).getLast?.map (·.2)
    let wish ← match wish with
      | none => pure Wish.automatic
      | some text =>
        match Wish.named text with
        | [wish] => pure wish
        | wishes => do
          let fault := if wishes.isEmpty then "invalid" else "ambiguous"
          Program.complain name (fault.toList ++ " argument ".toList ++ Quoted.inApostrophes text ++
            " for '--total'".toList)
          discard (Program.write 2 ("Valid arguments are:\n  - 'auto'\n  - 'always'\n" ++
            "  - 'only'\n  - 'never'\n").toList)
          Program.referToHelp name
    let columns := columns chosen
    let files : List (Option Octets) :=
      if arguments.operands.isEmpty then [none] else arguments.operands.map some
    let channels ← files.mapM openOperand
    let width := columnWidth columns.length channels (← get)
    let counted ← (files.zip channels).mapM fun (file, channel) =>
      countOperand name columns width (wish != .only) file channel
    let total := (counted.map (·.2)).foldl Counts.add {}
    match wish with
    | .never => pure ()
    | .only => Program.print name (line columns 1 none total)
    | .always => Program.print name (line columns width (some "total".toList) total)
    | .automatic =>
      if files.length > 1 then
        Program.print name (line columns width (some "total".toList) total)
    if files.any isInput then
      if let .error fault := ← Program.channel 0 then
        Program.complain name ("-: ".toList ++ fault.text.toList)
    return if counted.all (·.1) then 0 else 1

end ValidityTables.Count
