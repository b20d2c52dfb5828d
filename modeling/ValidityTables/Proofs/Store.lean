import ValidityTables.Proofs.StoredRows
import Mathlib.Data.List.Nodup
import Mathlib.Logic.Function.Basic

/-! # What a store makes of statements

A store is seen as tables of rows that are tagged with a sequence number. A statement that takes
effect makes one change to it. `Atomic` says that a statement takes full effect when it is answered
with success and has none otherwise, and that only statements have effects.
-/

namespace ValidityTables

/-- A row of a table: its sequence number, and its other values as they were written. -/
structure StoredRow where
  seqno : UInt32
  values : String
  deriving DecidableEq, Repr

/-- The tables that exist, with their rows. -/
abbrev Store : Type := String → Option (List StoredRow)

namespace Store

/-- What is stored in a table under a sequence number. -/
def rowsUnder (store : Store) (table : String) (seqno : UInt32) : List StoredRow :=
  ((store table).getD []).filter fun row => row.seqno == seqno

def put (store : Store) (table : String) (rows : List StoredRow) : Store :=
  Function.update store table (some rows)

@[simp] theorem put_same (store : Store) (table : String) (rows : List StoredRow) :
    store.put table rows table = some rows := Function.update_self ..

theorem put_other (store : Store) {table other : String} (rows : List StoredRow)
    (h : other ≠ table) : store.put table rows other = store other := Function.update_of_ne h ..

end Store

/-- What a statement does to a store. -/
inductive Change
  | create (table : String)
  | insert (table : String) (rows : List StoredRow)
  | delete (table : String) (seqno : UInt32)
  deriving DecidableEq, Repr

namespace Change

def table : Change → String
  | create table | insert table _ | delete table _ => table

/-- A change, where it is possible: a table is created once, and only tables that exist change. -/
def take? (store : Store) : Change → Option Store
  | create table =>
    match store table with
    | none => some (store.put table [])
    | some _ => none
  | insert table rows => (store table).map fun stored => store.put table (stored ++ rows)
  | delete table seqno =>
    (store table).map fun stored => store.put table (stored.filter fun row => row.seqno != seqno)

theorem take?_other {store after : Store} {change : Change} (h : change.take? store = some after)
    {other : String} (hOther : other ≠ change.table) : after other = store other := by
  cases change with
  | create table =>
    simp only [take?] at h
    split at h <;> cases h
    exact store.put_other _ hOther
  | insert table rows =>
    obtain ⟨stored, -, rfl⟩ := Option.map_eq_some_iff.mp h
    exact store.put_other _ hOther
  | delete table seqno =>
    obtain ⟨stored, -, rfl⟩ := Option.map_eq_some_iff.mp h
    exact store.put_other _ hOther

theorem rowsUnder_other {store after : Store} {change : Change}
    (h : change.take? store = some after) {other : String} (hOther : other ≠ change.table)
    (seqno : UInt32) : after.rowsUnder other seqno = store.rowsUnder other seqno := by
  rw [Store.rowsUnder, take?_other h hOther, Store.rowsUnder]

theorem create_rowsUnder {store after : Store} {table : String}
    (h : (create table).take? store = some after) (other : String) (seqno : UInt32) :
    after.rowsUnder other seqno = store.rowsUnder other seqno := by
  by_cases hOther : other = table
  · subst hOther
    simp only [take?] at h
    split at h <;> cases h
    rename_i hNone
    simp [Store.rowsUnder, hNone]
  · exact rowsUnder_other h hOther seqno

theorem insert_rowsUnder {store after : Store} {table : String} {rows : List StoredRow}
    (h : (insert table rows).take? store = some after) (seqno : UInt32) :
    after.rowsUnder table seqno =
      store.rowsUnder table seqno ++ rows.filter fun row => row.seqno == seqno := by
  obtain ⟨stored, hStored, rfl⟩ := Option.map_eq_some_iff.mp h
  simp [Store.rowsUnder, hStored]

theorem delete_rowsUnder {store after : Store} {table : String} {seqno : UInt32}
    (h : (delete table seqno).take? store = some after) : after.rowsUnder table seqno = [] := by
  obtain ⟨stored, hStored, rfl⟩ := Option.map_eq_some_iff.mp h
  simp [Store.rowsUnder]

theorem delete_rowsUnder_ne {store after : Store} {table : String} {seqno other : UInt32}
    (h : (delete table seqno).take? store = some after) (hOther : other ≠ seqno) :
    after.rowsUnder table other = store.rowsUnder table other := by
  obtain ⟨stored, hStored, rfl⟩ := Option.map_eq_some_iff.mp h
  simp only [Store.rowsUnder, Store.put_same, hStored, Option.getD_some, List.filter_filter]
  apply List.filter_congr
  intro row _
  by_cases hRow : row.seqno = other
  · simp [hRow, hOther]
  · simp [hRow]

end Change

/-- A name of a table is made of word characters. -/
def IsName (table : String) : Prop := ∀ c ∈ table.toList, Text.isWord c = true

/-- A text without parentheses and quotes. -/
def IsPlain (text : String) : Prop := ∀ c ∈ text.toList, c ∉ ['(', ')', '\'', '"']

/-- The stored row at a position, counted from zero as in a list; the counter is its first value. -/
def storedRow (seqno : UInt32) (row : String × Nat) : StoredRow where
  seqno
  values := toString (row.2 + 1) ++ "," ++ row.1

def validityRow (header : Header) (seqno : UInt32) (inserted : String) : StoredRow where
  seqno
  values := ", ".intercalate (Statement.validityValues header seqno inserted).tail

/-- The statements that change a store, with the change that each one stands for. -/
inductive Writes : String → Change → Prop
  | createValidityTable {header : Header} : IsName header.table →
      Writes (Statement.createValidityTable "CREATE TABLE" header) (.create header.validityTable)
  | insertRows {table : String} {seqno : UInt32} {rows : List (String × Nat)} : IsName table →
      rows ≠ [] → (∀ row ∈ rows, IsPlain row.1) →
      Writes (Statement.insertGroup table seqno rows) (.insert table (rows.map (storedRow seqno)))
  | insertValidityRow {header : Header} {seqno : UInt32} {inserted : String} :
      IsName header.table →
      Writes (Statement.insertValidityRow header seqno inserted)
        (.insert header.validityTable [validityRow header seqno inserted])
  | deleteFrom {table : String} {seqno : UInt32} : IsName table →
      Writes (Statement.deleteFrom table seqno) (.delete table seqno)

/-- What becomes of a store by a statement that stands for a change. -/
def Change.Settles (change : Change) (before after : Store) :
    Except UpdateError (List String) → Prop
  | .ok _ => change.take? before = some after
  | .error _ => after = before

theorem Change.Settles.rowsUnder_other {change : Change} {before after : Store}
    {outcome : Except UpdateError (List String)} (h : change.Settles before after outcome)
    {other : String} (hOther : other ≠ change.table) (seqno : UInt32) :
    after.rowsUnder other seqno = before.rowsUnder other seqno := by
  cases outcome with
  | ok lines => exact Change.rowsUnder_other h hOther seqno
  | error e =>
    obtain rfl : after = before := h
    rfl

variable {σ : Type}

/-- A statement takes effect when it is answered with success, and has no effect otherwise. -/
structure Effective {α : Type} (services : Services σ) (view : σ → α) (sql : String)
    (effect : α → α → Prop) : Prop where
  succeeded : ∀ {world reply after}, services.execute sql world = (.ok reply, after) →
    reply.succeeded = true → effect (view world) (view after)
  failed : ∀ {world answer after}, services.execute sql world = (answer, after) →
    (∀ reply, answer = .ok reply → reply.succeeded = false) → view after = view world

/-- What becomes of a view by a statement that takes full effect or none. -/
def Settled {α : Type} (effect : α → α → Prop) (before after : α) :
    Except UpdateError (List String) → Prop
  | .ok _ => effect before after
  | .error _ => after = before

/-- Services over a store in which a statement takes full effect if it is answered with success, and
has none otherwise. -/
structure Atomic (services : Services σ) (store : σ → Store) : Prop where
  succeeded : ∀ {sql change world reply after}, Writes sql change →
    services.execute sql world = (.ok reply, after) → reply.succeeded = true →
    change.take? (store world) = some (store after)
  failed : ∀ {sql change world answer after}, Writes sql change →
    services.execute sql world = (answer, after) →
    (∀ reply, answer = .ok reply → reply.succeeded = false) → store after = store world
  probe : ∀ {table seen sql}, services.probe table seen = some sql →
    ∀ world, store (services.execute sql world).2 = store world
  allocate : ∀ table scope world, store (services.allocate table scope world).2 = store world
  now : ∀ world, store (services.now world).2 = store world

/-- Removing rows from a table that exists succeeds within the attempts. -/
def Backend.Cleans (backend : Backend σ) (store : σ → Store) : Prop :=
  ∀ table seqno (session : Session σ), IsName table → (store session.world table).isSome →
    ∃ lines, (backend.query (Statement.deleteFrom table seqno) session).1 = .ok lines

theorem Backend.Cleans.recorded {backend : Backend σ} {store : σ → Store}
    (h : backend.Cleans store) : backend.recorded.Cleans fun recorded => store recorded.world := by
  intro table seqno session hName hTable
  obtain ⟨lines, hOk⟩ := h table seqno session.forget hName hTable
  rw [backend.query_mirrors] at hOk
  exact ⟨lines, hOk⟩

theorem Reply.connectionLost_not_succeeded {reply : Reply} (h : reply.connectionLost = true) :
    reply.succeeded = false := by
  have hExit : reply.exitCode = 1 := by
    simp only [connectionLost, Bool.and_eq_true, beq_iff_eq] at h
    exact h.1
  simp [succeeded, hExit]

namespace Effective

variable {α : Type} {backend : Backend σ} {view : σ → α} {sql : String} {effect : α → α → Prop}

/-- A statement has its effect at most once, however often it is sent. -/
theorem settled (h : Effective backend.services view sql effect) {left : Nat}
    {answers : List (Except UpdateError Reply)} {outcome : Except UpdateError (List String)}
    {world after : σ} (hPath : Path backend.services world (answers.map (.execute sql)) after)
    (hResolves : Resolves backend.attempts sql left answers outcome) :
    Settled effect (view world) (view after) outcome := by
  induction hResolves generalizing world with
  | exhausted => cases hPath; rfl
  | unreachable e =>
    obtain _ | ⟨hAnswer, hRest⟩ := hPath
    cases hRest
    exact h.failed hAnswer (by simp)
  | @lost _ reply _ outcome hLost _ ih =>
    -- A lost attempt had no effect, so the next one starts from the same store.
    obtain _ | ⟨hAnswer, hRest⟩ := hPath
    have hSame := h.failed hAnswer fun _ hReply =>
      Except.ok.inj hReply ▸ Reply.connectionLost_not_succeeded hLost
    have hLater := ih hRest
    rw [hSame] at hLater
    exact hLater
  | succeeded hSucceeded =>
    obtain _ | ⟨hAnswer, hRest⟩ := hPath
    cases hRest
    exact h.succeeded hAnswer hSucceeded
  | rejected _ hSucceeded =>
    obtain _ | ⟨hAnswer, hRest⟩ := hPath
    cases hRest
    exact h.failed hAnswer fun _ hReply => Except.ok.inj hReply ▸ hSucceeded

theorem traced (h : Effective backend.services view sql effect)
    {outcome : Except UpdateError (List String)} {world after : σ}
    (hTraces : backend.Traces world [.statement sql outcome] after) :
    Settled effect (view world) (view after) outcome := by
  obtain ⟨answers, hPath, hResolves⟩ := hTraces.answers
  exact h.settled hPath hResolves

end Effective

namespace Atomic

variable {backend : Backend σ} {store : σ → Store}

theorem recorded {services : Services σ} (h : Atomic services store) :
    Atomic services.recorded fun recorded => store recorded.world where
  succeeded {sql change world reply after} hWrites hAnswer hSucceeded := by
    cases hAnswer' : services.execute sql world.world
    simp only [Services.recorded, hAnswer'] at hAnswer
    cases hAnswer
    exact h.succeeded hWrites hAnswer' hSucceeded
  failed {sql change world answer after} hWrites hAnswer hFailed := by
    cases hAnswer' : services.execute sql world.world
    simp only [Services.recorded, hAnswer'] at hAnswer
    cases hAnswer
    exact h.failed hWrites hAnswer' hFailed
  probe hProbe recorded := h.probe hProbe recorded.world
  allocate table scope recorded := h.allocate table scope recorded.world
  now recorded := h.now recorded.world

theorem effective (h : Atomic backend.services store) {sql : String} {change : Change}
    (hWrites : Writes sql change) :
    Effective backend.services store sql fun before after => change.take? before = some after where
  succeeded := h.succeeded hWrites
  failed := h.failed hWrites

theorem changed (h : Atomic backend.services store) {sql : String} {change : Change}
    (hWrites : Writes sql change) {outcome : Except UpdateError (List String)} {world after : σ}
    (hTraces : backend.Traces world [.statement sql outcome] after) :
    change.Settles (store world) (store after) outcome := by
  have hEffect := (h.effective hWrites).traced hTraces
  cases outcome <;> exact hEffect

theorem asked (h : Atomic backend.services store) {table sql : String}
    (hAsks : backend.Asks table (some sql)) {answers : List (Except UpdateError Reply)}
    {world after : σ} (hPath : Path backend.services world (answers.map (.execute sql)) after) :
    store after = store world := by
  obtain ⟨seen, hProbe⟩ := hAsks
  induction answers generalizing world with
  | nil => cases hPath; rfl
  | cons answer rest ih =>
    obtain _ | ⟨hAnswer, hRest⟩ := hPath
    rw [ih hRest, ← h.probe hProbe world, hAnswer]

theorem probed (h : Atomic backend.services store) {table : String} {probe : Option String}
    (hAsks : backend.Asks table probe) {events : List Event} {found : Except UpdateError Bool}
    (hProbes : Probes probe events found) {world after : σ}
    (hTraces : backend.Traces world events after) : store after = store world := by
  have hStatement {sql : String} {outcome : Except UpdateError (List String)}
      (hSql : probe = some sql) (hEvents : events = [.statement sql outcome]) :
      store after = store world := by
    subst hSql hEvents
    obtain ⟨answers, hPath, -⟩ := hTraces.answers
    exact h.asked hAsks hPath
  cases hProbes with
  | trusted => rw [hTraces.nil_eq]
  | present | missing | failed => exact hStatement rfl rfl

theorem requested (h : Atomic backend.services store) {table : String} {scope : Scope}
    {answer : Except UpdateError UInt32} {world after : σ}
    (hTraces : backend.Traces world [.request table scope answer] after) :
    store after = store world := by
  obtain ⟨_, hPath, _ | _ | hNil⟩ := hTraces
  cases hNil
  obtain _ | _ | ⟨hAnswer, hRest⟩ := hPath
  cases hRest
  rw [← h.allocate table scope world, hAnswer]

theorem timed (h : Atomic backend.services store) {date : String} {world after : σ}
    (hTraces : backend.Traces world [.clock date] after) : store after = store world := by
  obtain ⟨_, hPath, _ | _ | _ | hNil⟩ := hTraces
  cases hNil
  obtain _ | _ | _ | ⟨hDate, hRest⟩ := hPath
  cases hRest
  rw [← h.now world, hDate]

end Atomic

end ValidityTables
