import ValidityTables.Host.Launch
import ValidityTables.Number.Notation
import ValidityTables.Programs.Options
import ValidityTables.Programs.Program
import ValidityTables.Text.Quoted

/-!
# A program in another environment

The program `env` starts another program, with some variables set or removed. Without one it prints
the environment.
-/

namespace ValidityTables.Env

inductive Choice
  | empty
  | remove
  | directory
  | split
  | zero
  | help
  deriving DecidableEq, Repr

def rules : List (OptionRule Choice) :=
  [⟨some 'i', "ignore-environment", false, .empty⟩, ⟨some 'u', "unset", true, .remove⟩,
    ⟨some 'C', "chdir", true, .directory⟩, ⟨some 'S', "split-string", true, .split⟩,
    ⟨some '0', "null", false, .zero⟩, ⟨none, "help", false, .help⟩,
    ⟨none, "version", false, .help⟩]

def words (text : Octets) (rest : List Octets) : List Octets :=
  (text.splitOnP Launch.isBlank).filter (!·.isEmpty) ++ rest

/-- What the arguments ask for: the options, and what follows them, which begins at the first
operand. A text that stands for several arguments is taken apart; `bound` limits how often. -/
def readArguments (bound : Nat) (arguments : List Octets) :
    Except Octets (List (Choice × Octets) × List Octets) :=
  match bound, arguments with
  | bound + 1, ('-' :: 'S' :: text) :: rest =>
    if text.isEmpty then
      match rest with
      | text :: rest => readArguments bound (words text rest)
      | [] => .error "option requires an argument -- 'S'".toList
    else readArguments bound (words text rest)
  | bound + 1, ['-'] :: rest => (readArguments bound rest).map fun (options, rest) =>
      ((.empty, []) :: options, rest)
  | bound + 1, ('-' :: c :: cs) :: rest =>
    if c :: cs = ['-'] then .ok ([], rest)
    else
      let option :=
        if c = '-' then (OptionRule.readName rules cs rest).map fun (option, rest) =>
          ([option], rest)
        else OptionRule.readLetters rules rest (c :: cs)
      match option with
      | .error message => .error message
      | .ok (options, rest) => (readArguments bound rest).map fun (more, rest) =>
          (options ++ more, rest)
  | _, _ => .ok ([], arguments)

def isAssignment (argument : Octets) : Bool := argument.contains '='

def environment (options : List (Choice × Octets)) (assignments : List Octets)
    (before : List (Octets × Octets)) : List (Octets × Octets) :=
  let start := if options.any (·.1 = .empty) then [] else before
  let kept := options.foldl (fun kept option =>
    if option.1 = .remove then kept.filter (·.1 != option.2) else kept) start
  assignments.foldl (fun kept argument =>
    let name := argument.takeWhile (· != '=')
    kept.filter (·.1 != name) ++ [(name, argument.drop (name.length + 1))]) kept

def main (name : Octets) (arguments : List Octets) : Program (Option (Launch.Image × Process)) := do
  match readArguments (arguments.length + 8) arguments with
  | .error message => do
    Program.complain name message
    discard (Program.write 2 ("Try '".toList ++ name ++
      " --help' for more information.\n".toList))
    Program.exit 125
  | .ok (options, rest) => do
    if options.any (·.1 = .help) then Program.exit 0
    let assignments := rest.takeWhile isAssignment
    let command := rest.drop assignments.length
    let process ← read
    let process := { process with
      environment := environment options assignments process.environment }
    match command with
    | [] => do
      Program.print name (process.environment.flatMap fun (variableName, value) =>
        variableName ++ '=' :: value ++ ['\n'])
      return none
    | program :: arguments =>
      match Launch.find (← get) process program arguments with
      | .ok image => return some (image, process)
      | .error fault => do
        Program.complain name
          (Quoted.inApostrophes program ++ ": ".toList ++ fault.text.toList)
        if fault = .notFound && program.any Number.isBlank then
          Program.complain name "use -[v]S to pass options in shebang lines".toList
        Program.exit (if fault = .notFound then 127 else 126)

end ValidityTables.Env
