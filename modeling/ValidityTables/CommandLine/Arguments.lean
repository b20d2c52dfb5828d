/-!
# Arguments of the command line

Options stand before the command, and each may stand once. A command takes one operand; an operand
that begins with a hyphen needs two hyphens before it.
-/

namespace ValidityTables.CommandLine

inductive Command
  /-- Apply an update with numbers that are unique in all stores. -/
  | applyGlobally (file : String)
  /-- Apply an update with numbers that are unique in the connected store. -/
  | applyLocally (file : String)
  | dropTable (name : String)
  deriving DecidableEq, Repr

structure Options where
  convertUnsigned : Bool := false
  temporaryTables : Bool := false
  debug : Bool := false
  configFile : Option String := none
  deriving DecidableEq, Repr

structure Invocation where
  options : Options
  command : Command
  deriving DecidableEq, Repr

inductive Refusal
  | helpAsked
  | misused
  deriving DecidableEq, Repr

/-- Whether an argument is an option. A single hyphen is none. -/
def isOption (argument : String) : Bool :=
  match argument.toList with
  | '-' :: _ :: _ => true
  | _ => false

def isHelp (argument : String) : Bool :=
  argument == "--help" || "-h".toList.isPrefixOf argument.toList

/-- Reads the one operand of a command; the name of a file may not be empty. -/
def readOperand (isFile : Bool) (operand : Option String) (onlyOperands : Bool) :
    List String → Except Refusal String
  | [] =>
    match operand with
    | some operand => .ok operand
    | none => .error .misused
  | argument :: rest =>
    if !onlyOperands && argument == "--" then readOperand isFile operand true rest
    else if !onlyOperands && isHelp argument then .error .helpAsked
    else if !onlyOperands && isOption argument then .error .misused
    else if operand.isSome || (isFile && argument.isEmpty) then .error .misused
    else readOperand isFile (some argument) onlyOperands rest

def commands : List (String × (Bool × (String → Command))) :=
  [("apply_global_update", true, .applyGlobally), ("apply_local_update", true, .applyLocally),
    ("drop_table", false, .dropTable)]

def withConfigFile (options : Options) (file : String) : Except Refusal Options :=
  if options.configFile.isSome || file.isEmpty then .error .misused
  else .ok { options with configFile := some file }

def readFrom (options : Options) : List String → Except Refusal Invocation
  | [] => .error .misused
  | argument :: rest =>
    match commands.lookup argument with
    | some (isFile, command) =>
      match readOperand isFile none false rest with
      | .ok operand => .ok { options, command := command operand }
      | .error refusal => .error refusal
    | none =>
      if argument = "--convert-unsigned" ∧ !options.convertUnsigned then
        readFrom { options with convertUnsigned := true } rest
      else if argument = "--temporary-tables" ∧ !options.temporaryTables then
        readFrom { options with temporaryTables := true } rest
      else if argument = "--debug" ∧ !options.debug then
        readFrom { options with debug := true } rest
      else if argument = "--config" then
        match rest with
        | [] => .error .misused
        | file :: rest =>
          if isOption file then .error .misused
          else match withConfigFile options file with
            | .ok options => readFrom options rest
            | .error refusal => .error refusal
      else if "--config=".toList.isPrefixOf argument.toList then
        match withConfigFile options (String.ofList (argument.toList.drop 9)) with
        | .ok options => readFrom options rest
        | .error refusal => .error refusal
      else if isHelp argument then .error .helpAsked
      else if argument = "help" then
        match rest with
        | [] => .error .helpAsked
        | [topic] =>
          if (commands.lookup topic).isSome || topic == "help" then .error .helpAsked
          else .error .misused
        | _ => .error .misused
      else .error .misused

def Invocation.read (arguments : List String) : Except Refusal Invocation := readFrom {} arguments

end ValidityTables.CommandLine
