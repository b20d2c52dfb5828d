import ValidityTables.Programs.Cat
import ValidityTables.Programs.Count
import ValidityTables.Programs.Echo
import ValidityTables.Programs.Printf

/-!
# Installed programs

The programs of every host that do their work alone.
-/

namespace ValidityTables.Program

def installed : List (String × (Octets → List Octets → Program Nat)) :=
  [("cat", Cat.main), ("echo", EchoProgram.main), ("false", fun _ _ => return 1),
    ("printf", PrintfProgram.main), ("true", fun _ _ => return 0), ("wc", Count.main)]

def names : List String := ["dash", "env"] ++ installed.map (·.1)

end ValidityTables.Program
