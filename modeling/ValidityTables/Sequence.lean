import ValidityTables.Table

/-!
# Sequence numbers of a rehearsal

A rehearsal hands out its own sequence numbers, for each table of validity rows 1, 2, 3 and so on,
and remembers for which of these tables it has issued the statement that creates it.
-/

namespace ValidityTables

/-- Where a sequence number is unique: in the connected store, or in all stores of a deployment. -/
inductive Scope
  | locally
  | globally
  deriving DecidableEq, Repr

/-- Counters by the name of a table of validity rows, and the marks of creation. -/
structure SequenceCounters where
  next : String → UInt32
  created : String → Bool

namespace SequenceCounters

def empty : SequenceCounters where
  next _ := 1
  created _ := false

def peek (counters : SequenceCounters) (validityTable : String) : UInt32 :=
  counters.next validityTable

def take (counters : SequenceCounters) (validityTable : String) : UInt32 × SequenceCounters :=
  let seqno := counters.next validityTable
  (seqno, { counters with
    next := fun name => if name = validityTable then seqno + 1 else counters.next name })

def isCreated (counters : SequenceCounters) (validityTable : String) : Bool :=
  counters.created validityTable

def markCreated (counters : SequenceCounters) (validityTable : String) : SequenceCounters :=
  { counters with created := fun name => name = validityTable || counters.created name }

/-- The next number for a table, which is counted by its table of validity rows. -/
def allocate (counters : SequenceCounters) (table : String) : UInt32 × SequenceCounters :=
  counters.take (validityTable table)

end SequenceCounters

end ValidityTables
