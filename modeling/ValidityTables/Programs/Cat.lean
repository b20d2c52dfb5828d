import ValidityTables.Programs.Options
import ValidityTables.Programs.Program
import ValidityTables.Text.Quoted

/-!
# Joining files

The program `cat` writes its input or files one after the other. On request it numbers the lines,
joins blank ones, and shows line ends, tabs and control characters.
-/

namespace ValidityTables.Cat

structure Style where
  numbered : Bool := false
  onlyNonblank : Bool := false
  squeezed : Bool := false
  lineEnds : Bool := false
  tabs : Bool := false
  controls : Bool := false
  deriving DecidableEq, Repr

inductive Choice
  | all
  | numberNonblank
  | endsAndControls
  | lineEnds
  | number
  | squeeze
  | tabsAndControls
  | tabs
  | unbuffered
  | controls
  | help
  deriving DecidableEq, Repr

def rules : List (OptionRule Choice) :=
  [⟨some 'b', "number-nonblank", false, .numberNonblank⟩, ⟨some 'n', "number", false, .number⟩,
    ⟨some 's', "squeeze-blank", false, .squeeze⟩, ⟨some 'v', "show-nonprinting", false, .controls⟩,
    ⟨some 'E', "show-ends", false, .lineEnds⟩, ⟨some 'T', "show-tabs", false, .tabs⟩,
    ⟨some 'A', "show-all", false, .all⟩, ⟨some 'e', "", false, .endsAndControls⟩,
    ⟨some 't', "", false, .tabsAndControls⟩, ⟨some 'u', "", false, .unbuffered⟩,
    ⟨none, "help", false, .help⟩, ⟨none, "version", false, .help⟩]

def Style.choose (style : Style) : Choice → Style
  | .all => { style with controls := true, lineEnds := true, tabs := true }
  | .numberNonblank => { style with numbered := true, onlyNonblank := true }
  | .endsAndControls => { style with controls := true, lineEnds := true }
  | .lineEnds => { style with lineEnds := true }
  | .number => { style with numbered := true }
  | .squeeze => { style with squeezed := true }
  | .tabsAndControls => { style with controls := true, tabs := true }
  | .tabs => { style with tabs := true }
  | .controls => { style with controls := true }
  | .unbuffered | .help => style

structure Progress where
  atLineStart : Bool := true
  blankLines : Nat := 0
  number : Nat := 0
  /-- A carriage return that is written when it is known whether a line end follows it. -/
  heldReturn : Bool := false

def numberText (n : Nat) : Octets :=
  let digits := Octets.ofNat n
  List.replicate (6 - digits.length) ' ' ++ digits ++ ['\t']

def visible (tabs : Bool) (c : Char) : Octets :=
  let low (n : Nat) : Octets :=
    if n < 32 then ['^', Char.ofNat (n + 64)] else if n = 127 then ['^', '?'] else [Char.ofNat n]
  if c == '\t' && !tabs then [c]
  else if c.toNat < 128 then low c.toNat
  else 'M' :: '-' :: low (c.toNat - 128)

def Progress.numbered (progress : Progress) (wanted : Bool) : Octets × Progress :=
  if wanted then
    (numberText (progress.number + 1), { progress with number := progress.number + 1 })
  else ([], progress)

def endLine (style : Style) (progress : Progress) : Octets × Progress :=
  let blanks := if progress.atLineStart then min 2 (progress.blankLines + 1) else 0
  if blanks = 2 && style.squeezed then ([], { progress with blankLines := blanks })
  else
    let (number, after) :=
      progress.numbered (progress.atLineStart && style.numbered && !style.onlyNonblank)
    let held : Octets := if progress.heldReturn then ['^', 'M'] else []
    let mark : Octets := if style.lineEnds then held ++ ['$'] else []
    (number ++ mark ++ ['\n'],
      { after with atLineStart := true, blankLines := blanks, heldReturn := false })

def writeChar (style : Style) (c : Char) (progress : Progress) : Octets × Progress :=
  let held : Octets := if progress.heldReturn then ['\r'] else []
  let (number, after) := progress.numbered (progress.atLineStart && style.numbered)
  let holds := c == '\r' && style.lineEnds && !style.controls
  let shown : Octets :=
    if holds then []
    else if style.controls then visible style.tabs c
    else if c == '\t' && style.tabs then ['^', 'I']
    else [c]
  (held ++ number ++ shown,
    { after with atLineStart := false, blankLines := 0, heldReturn := holds })

def showFrom (style : Style) (out : Octets) (progress : Progress) : Octets → Octets × Progress
  | [] => (out.reverse, progress)
  | c :: cs =>
    let (text, progress) :=
      if c == '\n' then endLine style progress else writeChar style c progress
    showFrom style (text.reverse ++ out) progress cs

def showText (style : Style) (progress : Progress) (text : Octets) : Octets × Progress :=
  if style == {} then (text, progress) else showFrom style [] progress text

/-- Whether reading a channel to its end would read what is written to the output. -/
def readsItsOutput (id : Nat) (content : Octets) : Program Bool := do
  let world ← get
  let output := (← read).descriptors.lookup 1 |>.bind world.channel?
  match world.channel? id, output with
  | some (.file input _ _), some (.file place _ _) => return input == place && !content.isEmpty
  | _, _ => return false

def writeFile (name : Octets) (style : Style) (progress : Progress) (file : Octets) :
    Program (Bool × Progress) := do
  let complain (message : Octets) : Program (Bool × Progress) := do
    Program.complain name (Quoted.forShell [':'] file ++ ": ".toList ++ message)
    return (false, progress)
  match ← if file = ['-'] then Program.channel 0 else Program.openFile file with
  | .error fault => complain fault.text.toList
  | .ok id =>
    match (← get).unread id with
    | .error fault => complain fault.text.toList
    | .ok content =>
      if ← readsItsOutput id content then complain "input file is output file".toList
      else
        modify (·.skip id content.length)
        let (text, progress) := showText style progress content
        Program.print name text
        return (true, progress)

def writeFiles (name : Octets) (style : Style) (progress : Progress) :
    List Octets → Program (Bool × Progress)
  | [] => return (true, progress)
  | file :: files => do
    let (good, progress) ← writeFile name style progress file
    let (allGood, progress) ← writeFiles name style progress files
    return (good && allGood, progress)

def main (name : Octets) (arguments : List Octets) : Program Nat := do
  match OptionRule.read rules arguments with
  | .error message => do
    Program.complain name message
    Program.referToHelp name
  | .ok arguments =>
    let style := arguments.options.foldl (fun style option => style.choose option.1) {}
    if arguments.options.any fun option => option.1 = .help then return 0
    match ← Program.write 1 [] with
    | .error fault => Program.fail name ("standard output: ".toList ++ fault.text.toList)
    | .ok () =>
      let files := if arguments.operands.isEmpty then [['-']] else arguments.operands
      let (good, progress) ← writeFiles name style {} files
      if progress.heldReturn then Program.print name ['\r']
      if files.contains ['-'] then
        if let .error fault := ← Program.channel 0 then
          Program.complain name ("closing standard input: ".toList ++ fault.text.toList)
      return if good then 0 else 1

end ValidityTables.Cat
