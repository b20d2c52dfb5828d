import ValidityTables.Config
import ValidityTables.Json.Skip

/-!
# Reading settings

Settings are a JSON object, or an array of values in the order of the settings. What is left out
keeps its default. Unknown members of an object are skipped; a known one may stand once, and its
value has to be of its type exactly.
-/

namespace ValidityTables.Config

open Json

inductive Field
  | convertUnsigned
  | temporaryTables
  | maxAttempts
  | maxValuesBytes
  | clientProgram
  | allocatorProgram
  deriving DecidableEq, Repr

def Field.all : List Field :=
  [.convertUnsigned, .temporaryTables, .maxAttempts, .maxValuesBytes, .clientProgram,
    .allocatorProgram]

def Field.name : Field → String
  | .convertUnsigned => "convert_unsigned"
  | .temporaryTables => "temporary_tables"
  | .maxAttempts => "max_attempts"
  | .maxValuesBytes => "max_values_bytes"
  | .clientProgram => "client_program"
  | .allocatorProgram => "allocator_program"

def Field.ofName? (name : String) : Option Field := Field.all.find? (·.name == name)

def set? (config : Config) : Field → Token → Option Config
  | .convertUnsigned, .bool b => some { config with convertUnsigned := b }
  | .temporaryTables, .bool b => some { config with temporaryTables := b }
  | .maxAttempts, .natural n =>
    if n < UInt32.size then some { config with maxAttempts := n } else none
  | .maxValuesBytes, .natural n =>
    if n < UInt64.size then some { config with maxValuesBytes := n } else none
  | .clientProgram, .string units => (text? units).map ({ config with clientProgram := · })
  | .allocatorProgram, .string units => (text? units).map ({ config with allocatorProgram := · })
  | _, _ => none

/-- Reads the members of an object from a key on; `seen` holds the settings that were given. Each
member takes at least one token, which bounds their number. -/
def readMembers (config : Config) (seen : List Field) : Nat → List Token → Option Config
  | bound + 1, .string units :: .colon :: rest =>
    let next (config : Config) (seen : List Field) (rest : List Token) : Option Config :=
      match rest with
      | [.closeObject] => some config
      | .comma :: rest => readMembers config seen bound rest
      | _ => none
    match text? units with
    | none => none
    | some name =>
      match Field.ofName? name with
      | none =>
        match skipValue? rest with
        | none => none
        | some rest => next config seen rest
      | some field =>
        if field ∈ seen then none
        else match rest with
          | [] => none
          | token :: rest =>
            match config.set? field token with
            | none => none
            | some config => next config (field :: seen) rest
  | _, _ => none

def readValues (config : Config) : List Field → List Token → Option Config
  | field :: fields, token :: rest =>
    match config.set? field token with
    | none => none
    | some config =>
      match rest with
      | [.closeArray] => some config
      | .comma :: rest => readValues config fields rest
      | _ => none
  | _, _ => none

def read? (bytes : List UInt8) : Option Config :=
  match tokens? bytes with
  | some [.openObject, .closeObject] | some [.openArray, .closeArray] => some {}
  | some (.openObject :: rest) => readMembers {} [] rest.length rest
  | some (.openArray :: rest) => readValues {} Field.all rest
  | _ => none

def load (name : String) (source : Except IoFault (List UInt8)) : Except UpdateError Config :=
  match source with
  | .error fault => .error (.io fault)
  | .ok bytes =>
    match read? bytes with
    | none => .error (.invalidConfig (name ++ ": not the settings of an update"))
    | some config =>
      match config.validate with
      | .error e => .error e
      | .ok () => .ok config

end ValidityTables.Config
