import ValidityTables.Services
import ValidityTables.Statement

/-!
# Sessions

A session sends the statements of a run to the client. A statement that was lost with its connection
is sent again up to a fixed number of attempts, and a failing statement leaves the session usable.
The backend says how a run reaches its store: a durable run writes to it and asks for sequence
numbers; an ephemeral run has temporary tables and counts the sequence numbers itself.
-/

namespace ValidityTables

inductive Mode
  | durable
  | ephemeral
  deriving DecidableEq, Repr

/-- What is fixed during a run. -/
structure Backend (σ : Type) where
  services : Services σ
  maxAttempts : Nat
  mode : Mode

/-- What a run changes. -/
structure Session (σ : Type) where
  world : σ
  results : List String := []
  executed : Nat := 0
  counters : SequenceCounters := .empty

/-- A step of a run: it changes the session whether or not it fails. -/
abbrev Action (σ : Type) (α : Type) : Type := ExceptT UpdateError (StateM (Session σ)) α

namespace Backend

variable {σ : Type} (backend : Backend σ)

def attempts : Nat := max backend.maxAttempts 1

def attempt (sql : String) : Nat → Action σ (List String)
  | 0 => throw (.transientExhausted backend.attempts sql)
  | left + 1 => fun session =>
    match backend.services.execute sql session.world with
    | (.error e, world) => (.error e, { session with world, results := [] })
    | (.ok reply, world) =>
      let session := { session with world, results := reply.lines }
      if reply.connectionLost then attempt sql left session
      else if reply.succeeded then
        (.ok reply.lines, { session with executed := session.executed + 1 })
      else (.error (.execution sql reply.exitCode reply.lines), session)

def query (sql : String) : Action σ (List String) := backend.attempt sql backend.attempts

def queryLeniently (sql : String) : Action σ Unit :=
  tryCatch (do discard (backend.query sql)) fun _ => pure ()

/-- Whether a table exists. Without a probe every table is taken to exist. -/
def tableExists (table : String) : Action σ Bool := fun session =>
  match backend.services.probe table session.world with
  | none => (.ok true, session)
  | some sql =>
    match backend.query sql session with
    | (.ok _, session) => (.ok true, session)
    | (.error (.execution _ _ _), session) => (.ok false, session)
    | (.error e, session) => (.error e, session)

def createKeyword : String :=
  match backend.mode with
  | .durable => "CREATE TABLE"
  | .ephemeral => "CREATE TEMPORARY TABLE"

def validityTableMissing (name : String) : Action σ Bool :=
  match backend.mode with
  | .durable => do return !(← backend.tableExists name)
  | .ephemeral => do return !(← get).counters.isCreated name

def noteValidityTable (name : String) : Action σ Unit :=
  match backend.mode with
  | .durable => pure ()
  | .ephemeral => modify fun session =>
    { session with counters := session.counters.markCreated name }

/-- Removes what is stored under a sequence number, as far as the store lets it. -/
def removeSeqno (table : String) (seqno : UInt32) : Action σ Unit :=
  match backend.mode with
  | .durable => (Statement.deleteSeqno table seqno).forM backend.queryLeniently
  | .ephemeral => pure ()

def allocate (table : String) (scope : Scope) : Action σ UInt32 := fun session =>
  let (answer, world) := backend.services.allocate table scope session.world
  (answer, { session with world })

/-- Acquires a sequence number under which nothing is stored. An allocated number need not be new,
so what is left under it is removed first. -/
def acquireSeqno (table : String) (scope : Scope) : Action σ UInt32 :=
  match backend.mode with
  | .durable => do
    let seqno ← backend.allocate table scope
    backend.removeSeqno table seqno
    return seqno
  | .ephemeral => modifyGet fun session =>
    let (seqno, counters) := session.counters.allocate table
    (seqno, { session with counters })

def now : StateM (Session σ) String := fun session =>
  let (date, world) := backend.services.now session.world
  (date, { session with world })

end Backend

end ValidityTables
