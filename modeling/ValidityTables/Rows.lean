import ValidityTables.Unsigned

/-!
# The rows of a block

The data lines of a block without the blanks at their ends, in the order in which they came.
-/

namespace ValidityTables

structure Rows where
  rows : Array String := #[]
  converted : Nat := 0
  deriving DecidableEq, Repr

namespace Rows

def toList (rows : Rows) : List String := rows.rows.toList

def isEmpty (rows : Rows) : Bool := rows.rows.isEmpty

def size (rows : Rows) : Nat := rows.rows.size

/-- The text stored for a data line, and how many of its fields were converted. -/
def stored (convert : Bool) (line : String) : String × Nat :=
  let row := Text.edit Text.trimEnd line
  if convert then convertUnsigned row else (row, 0)

def push (convert : Bool) (rows : Rows) (line : String) : Rows :=
  let (row, count) := stored convert line
  { rows := rows.rows.push row, converted := rows.converted + count }

end Rows

end ValidityTables
