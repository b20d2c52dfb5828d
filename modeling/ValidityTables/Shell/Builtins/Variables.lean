import ValidityTables.Shell.Builtins.Options
import ValidityTables.Shell.Splitting

/-!
# Variables

Built-in commands that set and show variables: lists of them, input that is read into them, and the
options of a script that are taken apart into them.
-/

namespace ValidityTables.Shell.Builtins.Variables

open Run

/-- A text between apostrophes; apostrophes stand between quotation marks. Each step takes a
character, which bounds their number. -/
def quoteFrom : Nat → Octets → Octets
  | 0, _ => []
  | bound + 1, text =>
    let part := text.takeWhile (· != '\'')
    let rest := text.drop part.length
    let marks := rest.takeWhile (· == '\'')
    let rest := rest.drop marks.length
    '\'' :: part ++ ['\''] ++
      (if marks.isEmpty then [] else '"' :: marks ++ ['"']) ++
      (if rest.isEmpty then [] else quoteFrom bound rest)

def quote (text : Octets) : Octets := quoteFrom (text.length + 1) text

def sortByName {α : Type} (entries : List (Octets × α)) : List (Octets × α) :=
  entries.mergeSort fun a b => Octets.precedes a.1 b.1

def showAll (start : Octets) (isShown : Variable → Bool) : Run Unit := do
  (sortByName ((← get).bindings.filter fun entry => isShown entry.2)).forM fun (name, binding) =>
    printLine (start ++ name ++ match binding.value with
      | some value => '=' :: quote value
      | none => [])

def mark (name : Octets) (property : Variable → Variable) (hasProperty : Variable → Bool) :
    Builtin := fun arguments => do
  let (options, names) ← readOptions [('p', false)] arguments
  if names.isEmpty || !options.isEmpty then showAll (name ++ [' ']) hasProperty
  else names.forM fun argument => do
    let (variableName, value) := splitAssignment argument
    if argument.contains '=' then setVariable variableName value
    else if !isVariableName argument then failName argument
    markVariable variableName property
  return 0

def exportNames : Builtin :=
  mark "export".toList (fun v => { v with exported := true }) (·.exported)

def makeReadOnly : Builtin :=
  mark "readonly".toList (fun v => { v with readOnly := true }) (·.readOnly)

def unset : Builtin := fun arguments => do
  let (options, names) ← readOptions [('v', false), ('f', false)] arguments
  let functions := (options.getLast?.map (·.1)) = some 'f'
  names.forM fun name =>
    if functions then
      modify fun state => { state with functions := unassign name state.functions }
    else unsetVariable name
  return 0

/-- Makes variables local to the running function. They keep their texts if they are given none. A
hyphen stands for the options. -/
def makeLocal : Builtin := fun arguments => do
  if (← get).hidden.isEmpty then fail "not in a function".toList
  arguments.forM fun argument => do
    let (name, value) := splitAssignment argument
    if argument = ['-'] then hideOptions
    else if argument.contains '=' then
      hide name
      bind name value
    else if !isVariableName name then failName name
    else
      hide name
      markVariable name id
  return 0

def optionNames : List (String × Option Char) :=
  [("errexit", some 'e'), ("noglob", some 'f'), ("ignoreeof", some 'I'),
    ("interactive", some 'i'), ("monitor", some 'm'), ("noexec", some 'n'), ("stdin", some 's'),
    ("xtrace", some 'x'), ("verbose", some 'v'), ("vi", some 'V'), ("emacs", some 'E'),
    ("noclobber", some 'C'), ("allexport", some 'a'), ("notify", some 'b'),
    ("nounset", some 'u'), ("privileged", some 'p'), ("nolog", none), ("debug", none)]

/-- Turns an option on or off. There is no terminal that could control jobs. -/
def setOption (on : Bool) (letter : Char) : Run Unit := do
  if !optionNames.any (·.2 = some letter) then fail ("Illegal option -".toList ++ [letter])
  if on && letter == 'm' then
    warn "can't access tty; job control turned off".toList
    return
  modify fun state =>
    let others := state.options.filter (· != letter)
    { state with options := if on then letter :: others else others }

def showOptions (asCommands : Bool) : Run Unit := do
  if !asCommands then printLine "Current option settings".toList
  let state ← get
  optionNames.forM fun (name, letter) =>
    let on := (letter.map state.hasOption).getD false
    if asCommands then printLine ((if on then "set -o " else "set +o ").toList ++ name.toList)
    else printLine (name.toList ++ List.replicate (16 - name.length) ' ' ++
      (if on then "on" else "off").toList)

def setNamedOption (on : Bool) (name : Option Octets) : Run Unit := do
  match name with
  | none => showOptions (!on)
  | some name =>
    match optionNames.find? (·.1.toList = name) with
    | some (_, some letter) => setOption on letter
    | some (_, none) => pure ()
    | none => fail ("Illegal option -o ".toList ++ name)

/-- Reads letters of options, of which `special` may take some, and gives the arguments that are
left. -/
def readOptionLetters (on : Bool) (special : Char → Bool) (next : List Octets) :
    Octets → Run (List Char × List Octets)
  | [] => return ([], next)
  | c :: cs => do
    if special c then
      let (found, next) ← readOptionLetters on special next cs
      return (c :: found, next)
    else if c == 'o' then
      setNamedOption on next.head?
      readOptionLetters on special (next.drop 1) cs
    else
      setOption on c
      readOptionLetters on special next cs

inductive OptionsEnd
  | atArgument
  | atHyphen
  | atHyphens
  deriving DecidableEq, Repr

/-- Reads the options of the shell up to the first other argument: letters that `special` takes, how
the options ended, and what follows them. Each step takes an argument, which bounds their number. -/
def readShellOptions (special : Char → Bool) (bound : Nat) (arguments : List Octets) :
    Run (List Char × OptionsEnd × List Octets) := do
  match bound, arguments with
  | _ + 1, ['-'] :: next => return ([], .atHyphen, next)
  | _ + 1, ['-', '-'] :: next => return ([], .atHyphens, next)
  | bound + 1, ('-' :: letters) :: next => go bound true letters next
  | bound + 1, ('+' :: letters) :: next => go bound false letters next
  | _, _ => return ([], .atArgument, arguments)
where
  go (bound : Nat) (on : Bool) (letters : Octets) (next : List Octets) :
      Run (List Char × OptionsEnd × List Octets) := do
    let (found, next) ← readOptionLetters on special next letters
    let (more, optionsEnd, rest) ← readShellOptions special bound next
    return (found ++ more, optionsEnd, rest)

def set : Builtin := fun arguments => do
  if arguments.isEmpty then showAll [] fun binding => binding.value.isSome
  else
    let (_, optionsEnd, parameters) ←
      readShellOptions (fun _ => false) arguments.length arguments
    if optionsEnd = .atHyphen then
      modify fun state =>
        { state with options := state.options.filter fun letter => !(['x', 'v'].contains letter) }
    if optionsEnd = .atHyphens ∨ !parameters.isEmpty then
      modify fun state => { state with parameters, optionPosition := {} }
  return 0

def shift : Builtin := fun arguments => do
  let count ← match arguments with
    | [] => pure 1
    | count :: _ => natural count
  if count > (← get).parameters.length then fail "can't shift that many".toList
  modify fun state => { state with
    parameters := state.parameters.drop count
    optionPosition := {} }
  return 0

structure FoundOption where
  letter : Char
  value : Option Octets
  message : Octets := []
  position : OptionPosition
  finished : Bool := false

def currentLetters (arguments : List Octets) (position : OptionPosition) :
    Option (Octets × Nat) :=
  let left := do
    let offset ← position.letters
    let argument ← if position.argument ≤ 1 then none else arguments[position.argument - 2]?
    if argument.length ≤ offset then none else some (argument.drop offset)
  match left with
  | some letters => some (letters, position.argument)
  | none =>
    match arguments[position.argument - 1]? with
    | some ('-' :: c :: cs) => some (c :: cs, position.argument + 1)
    | _ => none

def letterUse (letter : Char) (known : Octets) : Option Bool :=
  let rec look : Octets → Option Bool
    | [] => none
    | c :: cs =>
      match cs with
      | ':' :: rest => if c == letter then some true else look rest
      | rest => if c == letter then some false else look rest
  look known

def findOption (known : Octets) (arguments : List Octets) (position : OptionPosition) :
    FoundOption :=
  let silent := known.head? = some ':'
  match currentLetters arguments position with
  | none =>
    { letter := '?', value := none, position := ⟨position.argument, none⟩, finished := true }
  | some (['-'], next) =>
    if position.letters.isNone ∨ next != position.argument then
      { letter := '?', value := none, position := ⟨next, none⟩, finished := true }
    else unknown silent '-' [] next
  | some ([], next) =>
    { letter := '?', value := none, position := ⟨next, none⟩, finished := true }
  | some (letter :: rest, next) =>
    match letterUse letter known with
    | none => unknown silent letter rest next
    | some false => { letter, value := some [], position := ⟨next, offsetOf rest next⟩ }
    | some true =>
      if !rest.isEmpty then { letter, value := some rest, position := ⟨next, none⟩ }
      else match arguments[next - 1]? with
        | some value => { letter, value := some value, position := ⟨next + 1, none⟩ }
        | none =>
          if silent then { letter := ':', value := some [letter], position := ⟨next, none⟩ }
          else {
            letter := '?'
            value := none
            message := "No arg for -".toList ++ letter :: " option\n".toList
            position := ⟨next, none⟩ }
where
  offsetOf (rest : Octets) (next : Nat) : Option Nat :=
    (arguments[next - 2]?).map fun argument => argument.length - rest.length
  unknown (silent : Bool) (letter : Char) (rest : Octets) (next : Nat) : FoundOption :=
    { letter := '?'
      value := if silent then some [letter] else none
      message := if silent then [] else "Illegal option -".toList ++ [letter, '\n']
      position := ⟨next, offsetOf rest next⟩ }

def getOptions : Builtin := fun arguments => do
  match ← dropOptions arguments with
  | known :: name :: rest => do
    let state ← get
    let arguments := if rest.isEmpty then state.parameters else rest
    let position := if state.optionPosition.argument > arguments.length + 1 then {}
      else state.optionPosition
    let found := findOption known arguments position
    discard (write 2 found.message)
    match found.value with
    | some value => setVariable "OPTARG".toList value
    | none => if found.finished then pure () else unsetVariable "OPTARG".toList
    setVariable "OPTIND".toList (Octets.ofNat found.position.argument)
    modify fun state => { state with optionPosition := found.position }
    setVariable name [found.letter]
    return if found.finished then 1 else 0
  | _ => fail "Usage: getopts optstring var [arg...]".toList

/-- A line of input as stretches, the escaped characters of which are not split: the stretches, last
first, whether the line ended, and how many characters were taken. -/
def readStretches (raw : Bool) (done : List Stretch) (plain : Octets) (count : Nat) :
    Octets → List Stretch × Bool × Nat
  | [] => (close done plain, false, count)
  | '\\' :: c :: cs =>
    if raw then
      if c == '\n' then (close done ('\\' :: plain), true, count + 2)
      else readStretches raw done (takePlain c ('\\' :: plain)) (count + 2) cs
    else if c == '\n' then readStretches raw done plain (count + 2) cs
    else readStretches raw (.ofText true .never [c] :: close done plain) [] (count + 2) cs
  | ['\\'] => (close done (if raw then '\\' :: plain else plain), false, count + 1)
  | c :: cs =>
    if c == '\n' then (close done plain, true, count + 1)
    else readStretches raw done (takePlain c plain) (count + 1) cs
where
  close (done : List Stretch) (plain : Octets) : List Stretch :=
    .ofText false .atSeparators plain.reverse :: done
  takePlain (c : Char) (plain : Octets) : Octets := if c == '\x00' then plain else c :: plain

/-- Gives variables the fields of a line; those for which there is none become empty. -/
def setFields : List Octets → List Octets → Run Unit
  | [], _ => pure ()
  | name :: names, fields => do
    setVariable name (fields.head?.getD [])
    setFields names (fields.drop 1)

def read : Builtin := fun arguments => do
  let (options, names) ← readOptions [('p', true), ('r', false)] arguments
  if names.isEmpty then fail "arg count".toList
  let raw := options.any (·.1 = 'r')
  let input ← unread 0
  let (stretches, ended, count) := readStretches raw [] [] 0 (input.toOption.getD [])
  skip 0 count
  let separators := (← get).separators.getD Stretch.usualSeparators
  let fields := Stretch.fields separators (some names.length) stretches.reverse
  setFields names (fields.map Stretch.fieldText)
  return if ended then 0 else 1

def showAlias (name value : Octets) : Run Unit := printLine (name ++ '=' :: quote value)

def setAliases : Builtin := fun arguments => do
  if arguments.isEmpty then
    (← get).aliases.reverse.forM fun (name, value) => showAlias name value
    return 0
  let found ← arguments.mapM fun argument => do
    let (name, value) := splitAssignment argument
    if argument.contains '=' && !name.isEmpty then
      modify fun state => { state with aliases := assign name value state.aliases }
      return true
    else match (← get).aliases.lookup argument with
      | some value => do
        showAlias argument value
        return true
      | none => do
        discard (write 2 ("alias: ".toList ++ argument ++ " not found\n".toList))
        return false
  return if found.all id then 0 else 1

def removeAliases : Builtin := fun arguments => do
  let (options, names) ← readOptions [('a', false)] arguments
  if !options.isEmpty then
    modify fun state => { state with aliases := [] }
    return 0
  let found ← names.mapM fun name => do
    if ((← get).aliases.lookup name).isSome then
      modify fun state => { state with aliases := unassign name state.aliases }
      return true
    else
      discard (write 2 ("unalias: ".toList ++ name ++ " not found\n".toList))
      return false
  return if found.all id then 0 else 1

end ValidityTables.Shell.Builtins.Variables
