import ValidityTables.Error

/-!
# Settings of a run
-/

namespace ValidityTables

structure Config where
  /-- Convert integers above the signed 32-bit range to signed values. Not for tables with wider
  columns. -/
  convertUnsigned : Bool := false
  /-- Print the statements of an ephemeral run and never touch a store. -/
  temporaryTables : Bool := false
  maxAttempts : Nat := 3
  maxValuesBytes : Nat := 2000
  clientProgram : String := "mysql"
  allocatorProgram : String := "allocate_seq_no.exe"
  deriving DecidableEq, Repr

namespace Config

def validate (config : Config) : Except UpdateError Unit :=
  if config.maxAttempts = 0 then .error (.invalidConfig "max_attempts must be at least 1")
  else if config.maxValuesBytes = 0 then
    .error (.invalidConfig "max_values_bytes must be positive")
  else .ok ()

end Config

end ValidityTables
