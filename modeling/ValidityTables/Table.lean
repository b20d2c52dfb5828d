/-!
# Names of tables

Every table of the store has a second table beside it, which holds one validity row for each
sequence number. Two further tables hold the sequence numbers handed out.
-/

namespace ValidityTables

def validityTable (table : String) : String := table ++ "VLD"

/-- Entries of the numbers that are unique within the connected store. -/
def localSequenceTable : String := "LOCALSEQNO"

/-- Entries of the numbers that are unique in all stores. A store that has this table is
authorising: it may hand out such numbers. -/
def globalSequenceTable : String := "GLOBALSEQNO"

end ValidityTables
