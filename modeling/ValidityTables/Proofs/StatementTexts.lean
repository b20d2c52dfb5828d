import ValidityTables.Proofs.Batches

/-! # Statements as they are written

The statements of an application, written out: what creates a table of validity rows, what deletes
under a sequence number, and what inserts a group of rows or the validity row. These are the texts
that are sent, whatever they are put together from.
-/

namespace ValidityTables.Written

/-- A header with an epoch has two columns more. -/
def creation (keyword : String) (header : Header) : String :=
  keyword ++ " " ++ header.table ++ "VLD (SEQNO integer not null primary key," ++
    "TIMESTART datetime not null,TIMEEND datetime not null," ++
    (if header.epoch.isSome then "EPOCH tinyint(4),REALITY tinyint(4)," else "") ++
    "DETECTORMASK tinyint(4),SIMMASK tinyint(4),TASK integer,AGGREGATENO integer," ++
    "CREATIONDATE datetime not null,INSERTDATE datetime not null," ++
    "key TIMESTART (TIMESTART), key TIMEEND (TIMEEND));"

def deletion (table : String) (seqno : UInt32) : String :=
  "DELETE FROM " ++ table ++ " WHERE SEQNO=" ++ toString seqno

/-- A row comes with its place among the rows of its block. -/
def tuple (seqno : UInt32) (row : String × Nat) : String :=
  "(" ++ toString seqno ++ "," ++ toString (row.2 + 1) ++ "," ++ row.1 ++ ")"

def insertion (table : String) (seqno : UInt32) (group : List (String × Nat)) : String :=
  "INSERT INTO " ++ table ++ " VALUES " ++ ",".intercalate (group.map (tuple seqno)) ++ ";"

def validityInsertion (header : Header) (seqno : UInt32) (inserted : String) : String :=
  "INSERT INTO " ++ header.table ++ "VLD VALUES (" ++ toString seqno ++ ", '" ++
    header.validFrom ++ "', '" ++ header.validTo ++ "', " ++
    (match header.epoch with
      | some epoch => toString epoch ++ ", 0, "
      | none => "") ++
    "'1', '" ++ toString header.simMask.value ++ "', " ++ toString header.task ++ ", " ++
    toString header.aggregate ++ ", '" ++ header.created ++ "', '" ++ inserted ++ "');"

/-- What stores a block: its rows in groups, and its validity row. -/
def storing (header : Header) (seqno : UInt32) (inserted : String)
    (groups : List (List (String × Nat))) : List String :=
  groups.map (insertion header.table seqno) ++ [validityInsertion header seqno inserted]

theorem createValidityTable_eq (keyword : String) (header : Header) :
    Statement.createValidityTable keyword header = creation keyword header := by
  unfold Statement.createValidityTable creation Statement.columns
  cases header.epoch <;>
    simp [Header.validityTable, validityTable, String.intercalate_cons_cons, String.append_assoc]

theorem deleteFrom_eq (table : String) (seqno : UInt32) :
    Statement.deleteFrom table seqno = deletion table seqno := rfl

theorem insertValidityRow_eq (header : Header) (seqno : UInt32) (inserted : String) :
    Statement.insertValidityRow header seqno inserted =
      validityInsertion header seqno inserted := by
  unfold Statement.insertValidityRow Statement.insertValues validityInsertion
    Statement.validityValues
  rw [← String.toList_inj]
  cases header.epoch <;>
    simp [Header.validityTable, validityTable, Statement.quoted, String.intercalate_cons_cons]

end ValidityTables.Written
