import ValidityTables.Header.Dates
import ValidityTables.Header.Fields
import ValidityTables.Header.Options

/-!
# Reading a header line

A header line is split into its fields; the number has to fit 64 bits and the tail sets the options.
-/

namespace ValidityTables.Header

open Text

def ofFields (fields : Fields) (aggregate : Nat) (options : Options) : Header where
  table := String.ofList fields.table
  validFrom := String.ofList fields.validFrom
  validTo := String.ofList fields.validTo
  aggregate := UInt64.ofNat aggregate
  created := String.ofList fields.created
  task := options.task
  simMask := options.simMask
  epoch := options.epoch

def readTail : Option (List Char) → Except BlockError Options
  | none => .ok {}
  | some tail => Options.read (lowercase tail)

def parse (line : String) : Except BlockError Header :=
  let cs := trim line.toList
  match Fields.read? cs with
  | none => .error (.parse (String.ofList cs))
  | some fields =>
    match readNat (UInt64.size - 1) fields.aggregate with
    | .error _ => .error (.parse (String.ofList cs))
    | .ok aggregate =>
      match readTail fields.tail with
      | .error e => .error e
      | .ok options => .ok (ofFields fields aggregate options)

end ValidityTables.Header
