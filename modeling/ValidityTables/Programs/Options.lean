import ValidityTables.Text.Octets

/-!
# Options of programs

How programs take their arguments apart: letters after a hyphen, names after two hyphens that may be
cut short, values of options, and operands, which may stand between options.
-/

namespace ValidityTables

structure OptionRule (ω : Type) where
  letter : Option Char
  name : String
  takesValue : Bool := false
  meaning : ω

namespace OptionRule

variable {ω : Type}

structure Arguments (ω : Type) where
  options : List (ω × Octets) := []
  operands : List Octets := []

def Arguments.addOption (meaning : ω) (value : Octets) (arguments : Arguments ω) : Arguments ω :=
  { arguments with options := (meaning, value) :: arguments.options }

def Arguments.addOperand (operand : Octets) (arguments : Arguments ω) : Arguments ω :=
  { arguments with operands := operand :: arguments.operands }

def named (rules : List (OptionRule ω)) (name : Octets) : List (OptionRule ω) :=
  match rules.filter (·.name.toList = name) with
  | [] => rules.filter fun rule => !rule.name.isEmpty && name.isPrefixOf rule.name.toList
  | full => full

/-- Reads the letters after a hyphen. An option that takes a value takes the rest of the letters, or
the next argument. -/
def readLetters (rules : List (OptionRule ω)) (next : List Octets) :
    Octets → Except Octets (List (ω × Octets) × List Octets)
  | [] => .ok ([], next)
  | c :: cs =>
    match rules.find? (·.letter = some c) with
    | none => .error ("invalid option -- '".toList ++ [c, '\''])
    | some rule =>
      if !rule.takesValue then
        (readLetters rules next cs).map fun (options, next) => ((rule.meaning, []) :: options, next)
      else if !cs.isEmpty then .ok ([(rule.meaning, cs)], next)
      else match next with
        | value :: next => .ok ([(rule.meaning, value)], next)
        | [] => .error ("option requires an argument -- '".toList ++ [c, '\''])

def readName (rules : List (OptionRule ω)) (text : Octets) (next : List Octets) :
    Except Octets ((ω × Octets) × List Octets) :=
  let name := text.takeWhile (· != '=')
  match named rules name, text.drop name.length with
  | [], _ => .error ("unrecognized option '--".toList ++ text ++ ['\''])
  | [rule], [] =>
    if !rule.takesValue then .ok ((rule.meaning, []), next)
    else match next with
      | value :: next => .ok ((rule.meaning, value), next)
      | [] => .error ("option '--".toList ++ rule.name.toList ++ "' requires an argument".toList)
  | [rule], _ :: value =>
    if rule.takesValue then .ok ((rule.meaning, value), next)
    else .error ("option '--".toList ++ rule.name.toList ++ "' doesn't allow an argument".toList)
  | rules, _ => .error ("option '--".toList ++ text ++ "' is ambiguous; possibilities:".toList ++
      rules.flatMap fun rule => " '--".toList ++ rule.name.toList ++ ['\''])

/-- Takes arguments apart. Each step takes an argument, which bounds their number. -/
def readFrom (rules : List (OptionRule ω)) (bound : Nat) (arguments : List Octets) :
    Except Octets (Arguments ω) :=
  match bound, arguments with
  | 0, _ | _, [] => .ok {}
  | bound + 1, argument :: next =>
    match argument with
    | ['-', '-'] => .ok { operands := next }
    | '-' :: '-' :: text =>
      match readName rules text next with
      | .error message => .error message
      | .ok (option, next) => (readFrom rules bound next).map (·.addOption option.1 option.2)
    | '-' :: c :: cs =>
      match readLetters rules next (c :: cs) with
      | .error message => .error message
      | .ok (options, next) =>
        (readFrom rules bound next).map fun rest =>
          { rest with options := options ++ rest.options }
    | _ => (readFrom rules bound next).map (·.addOperand argument)

def read (rules : List (OptionRule ω)) (arguments : List Octets) : Except Octets (Arguments ω) :=
  readFrom rules arguments.length arguments

end OptionRule

end ValidityTables
