import ValidityTables.Table

/-!
# Block headers

What a header line says about the rows that follow it: the table, the range of dates for which the
rows are valid, and the options of the validity row.
-/

namespace ValidityTables

inductive SimMask
  | data
  | mc
  | all
  deriving DecidableEq, Repr, Inhabited

def SimMask.value : SimMask → Int
  | .data => 1
  | .mc => 4
  | .all => -1

def SimMask.ofWord? : List Char → Option SimMask
  | ['d', 'a', 't', 'a'] => some .data
  | ['m', 'c'] => some .mc
  | ['a', 'l', 'l'] => some .all
  | _ => none

/-- Dates are kept as they were written. With an epoch, the table of validity rows that is created
for the block has columns for it. -/
structure Header where
  table : String
  validFrom : String
  validTo : String
  aggregate : UInt64
  created : String
  task : Int64
  simMask : SimMask
  epoch : Option UInt8
  deriving DecidableEq, Repr

def Header.validityTable (header : Header) : String := ValidityTables.validityTable header.table

end ValidityTables
