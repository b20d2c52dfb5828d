import ValidityTables.Header

/-!
# SQL statements of an update

The statements that create a table of validity rows, store the rows of a block with its validity
row, and delete what is stored under a sequence number.
-/

namespace ValidityTables.Statement

def columns (withEpoch : Bool) : List String :=
  ["SEQNO integer not null primary key", "TIMESTART datetime not null",
    "TIMEEND datetime not null"] ++
  (if withEpoch then ["EPOCH tinyint(4)", "REALITY tinyint(4)"] else []) ++
  ["DETECTORMASK tinyint(4)", "SIMMASK tinyint(4)", "TASK integer", "AGGREGATENO integer",
    "CREATIONDATE datetime not null", "INSERTDATE datetime not null"]

/-- Creates the table of validity rows; `keyword` is how the statement begins. -/
def createValidityTable (keyword : String) (header : Header) : String :=
  keyword ++ " " ++ header.validityTable ++ " (" ++
    ",".intercalate (columns header.epoch.isSome) ++
    ",key TIMESTART (TIMESTART), key TIMEEND (TIMEEND));"

/-- The values of the row at a position, counted from one. -/
def rowTuple (seqno : UInt32) (position : Nat) (row : String) : String :=
  "(" ++ toString seqno ++ "," ++ toString position ++ "," ++ row ++ ")"

def rowTuples (seqno : UInt32) (rows : List String) : List String :=
  rows.mapIdx fun i row => rowTuple seqno (i + 1) row

/-- Continues a batch of values, which is empty or a list of tuples between commas, with further
tuples. A batch ends before the tuple with which it would exceed `maxBytes`. -/
def batchesFrom (maxBytes : Nat) (batch : String) : List String → List String
  | [] => if batch.isEmpty then [] else [batch]
  | tuple :: rest =>
    if batch.isEmpty then batchesFrom maxBytes tuple rest
    else if batch.utf8ByteSize + 1 + tuple.utf8ByteSize > maxBytes then
      batch :: batchesFrom maxBytes tuple rest
    else batchesFrom maxBytes (batch ++ "," ++ tuple) rest

def batches (maxBytes : Nat) (tuples : List String) : List String := batchesFrom maxBytes "" tuples

def insertValues (table values : String) : String :=
  "INSERT INTO " ++ table ++ " VALUES " ++ values ++ ";"

/-- Inserts rows under a sequence number. A value list exceeds the limit only if it is the one
tuple of a long row. -/
def insertRows (table : String) (seqno : UInt32) (rows : List String) (maxBytes : Nat) :
    List String :=
  (batches maxBytes (rowTuples seqno rows)).map (insertValues table)

def quoted (text : String) : String := "'" ++ text ++ "'"

def validityValues (header : Header) (seqno : UInt32) (inserted : String) : List String :=
  [toString seqno, quoted header.validFrom, quoted header.validTo] ++
  (match header.epoch with
    | some epoch => [toString epoch, "0"]
    | none => []) ++
  [quoted "1", quoted (toString header.simMask.value), toString header.task,
    toString header.aggregate, quoted header.created, quoted inserted]

def insertValidityRow (header : Header) (seqno : UInt32) (inserted : String) : String :=
  insertValues header.validityTable
    ("(" ++ ", ".intercalate (validityValues header seqno inserted) ++ ")")

def deleteFrom (table : String) (seqno : UInt32) : String :=
  "DELETE FROM " ++ table ++ " WHERE SEQNO=" ++ toString seqno

/-- Deletes all that is stored under a sequence number, the rows first. -/
def deleteSeqno (table : String) (seqno : UInt32) : List String :=
  [deleteFrom table seqno, deleteFrom (validityTable table) seqno]

def dropTable (table : String) : String := "DROP TABLE " ++ table ++ ";"

def deleteSequenceEntries (sequenceTable table : String) : String :=
  "DELETE FROM " ++ sequenceTable ++ " WHERE TABLENAME='" ++ table ++ "';"

end ValidityTables.Statement
