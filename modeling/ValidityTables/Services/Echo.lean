import ValidityTables.Services

/-!
# Printing statements

A client that prints each statement on a line of its own and answers with it. There is no store
behind it, so every table is taken to exist.
-/

namespace ValidityTables.Echo

variable {σ : Type}

def execute (print : String → σ → σ) (sql : String) (world : σ) : Except UpdateError Reply × σ :=
  (.ok { lines := [sql] }, print (sql ++ "\n") world)

def probe (_table : String) (_world : σ) : Option String := none

end ValidityTables.Echo
