import ValidityTables.Proofs.StatementReader

/-! # A block is stored as a whole or not at all

Over a store in which statements take full effect or none, and in which rows can be removed, an
application either leaves all rows of its block with one validity row under its number, or leaves
nothing under it. It never touches what is stored under other numbers, or other tables. As the
numbers of an update are distinct, this carries over from one application to the whole file.
-/

namespace ValidityTables

variable {σ : Type}

def Call.number? : Call → Option (String × UInt32)
  | .allocate table _ (.ok seqno) => some (table, seqno)
  | _ => none

def Event.number? : Event → Option (String × UInt32)
  | .request table _ (.ok seqno) => some (table, seqno)
  | _ => none

/-- The numbers that were handed out, each with the table for which it was requested. -/
def handedOut (calls : List Call) : List (String × UInt32) := calls.filterMap Call.number?

def numbers (events : List Event) : List (String × UInt32) := events.filterMap Event.number?

@[simp] theorem numbers_append (before later : List Event) :
    numbers (before ++ later) = numbers before ++ numbers later := List.filterMap_append ..

@[simp] theorem numbers_statement (sql : String) (outcome : Except UpdateError (List String))
    (events : List Event) : numbers (.statement sql outcome :: events) = numbers events := rfl

@[simp] theorem numbers_clock (date : String) (events : List Event) :
    numbers (.clock date :: events) = numbers events := rfl

theorem handedOut_of_realizes {attempts : Nat} {events : List Event} {calls : List Call}
    (h : Realizes attempts events calls) : handedOut calls = numbers events := by
  induction h with
  | nil => rfl
  | @statement sql answers _ _ _ _ _ ih =>
    have hNone : handedOut (answers.map (.execute sql)) = [] := by
      simp [handedOut, Call.number?]
    rw [handedOut, List.filterMap_append, ← handedOut, ← handedOut, hNone, ih]
    rfl
  | @request table scope answer _ _ _ ih =>
    cases answer with
    | error e => exact ih
    | ok seqno => exact congrArg ((table, seqno) :: ·) ih
  | clock _ ih => exact ih

theorem Probes.numbers_eq {probe : Option String} {events : List Event}
    {found : Except UpdateError Bool} (h : Probes probe events found) : numbers events = [] := by
  cases h <;> rfl

theorem Ensures.numbers_eq {mode : Mode} {probe : Option String} {create : String}
    {events : List Event} {created : Except UpdateError Bool}
    (h : Ensures mode probe create events created) : numbers events = [] := by
  have hMisses {events : List Event} {missing : Except UpdateError Bool}
      (h : Misses probe mode events missing) : numbers events = [] := by
    cases h with
    | probed hProbes => exact hProbes.numbers_eq
    | remembered => rfl
  cases h with
  | unknown h | present h => exact hMisses h
  | created _ h | refused _ h => rw [numbers_append, hMisses h]; rfl

theorem Removes.numbers_eq {table : String} {seqno : UInt32} {mode : Mode} {events : List Event}
    (h : Removes table seqno mode events) : numbers events = [] := by
  cases h <;> rfl

theorem Succeeds.numbers_eq {statements : List String} {events : List Event}
    (h : Succeeds statements events) : numbers events = [] := by
  induction h with
  | nil => rfl
  | cons hEvent _ ih => obtain ⟨lines, rfl⟩ := hEvent; exact ih

theorem Stores.numbers_eq {mode : Mode} {table : String} {seqno : UInt32}
    {statements : List String} {events : List Event} {result : Except UpdateError Unit}
    (h : Stores mode table seqno statements events result) : numbers events = [] := by
  cases h with
  | all hSucceeds => exact hSucceeds.numbers_eq
  | failed _ hDone hRemoves =>
    rw [numbers_append, hDone.numbers_eq, numbers_statement, hRemoves.numbers_eq]
    rfl

/-- Only rows of a table and of its table of validity rows have changed, and only rows under the
given numbers. -/
structure Confined (table : String) (seqnos : List UInt32) (before after : Store) : Prop where
  elsewhere : ∀ other, other ≠ table → other ≠ validityTable table → after other = before other
  others : ∀ other seqno, seqno ∉ seqnos →
    after.rowsUnder other seqno = before.rowsUnder other seqno

namespace Confined

variable {table : String} {seqnos later : List UInt32} {before middle after : Store}

theorem refl (table : String) (seqnos : List UInt32) (store : Store) :
    Confined table seqnos store store := ⟨fun _ _ _ => rfl, fun _ _ _ => rfl⟩

theorem trans (h : Confined table seqnos before middle)
    (hLater : Confined table later middle after) :
    Confined table (seqnos ++ later) before after where
  elsewhere other hTable hValidity :=
    (hLater.elsewhere other hTable hValidity).trans (h.elsewhere other hTable hValidity)
  others other seqno hSeqno := by
    rw [List.mem_append, not_or] at hSeqno
    exact (hLater.others other seqno hSeqno.2).trans (h.others other seqno hSeqno.1)

theorem mono {more : List UInt32} (h : Confined table seqnos before after)
    (hMore : ∀ seqno ∈ seqnos, seqno ∈ more) : Confined table more before after where
  elsewhere := h.elsewhere
  others other seqno hSeqno := h.others other seqno fun hMem => hSeqno (hMore seqno hMem)

theorem trans_same (h : Confined table seqnos before middle)
    (hLater : Confined table seqnos middle after) : Confined table seqnos before after :=
  (h.trans hLater).mono (by simp)

end Confined

/-- The change concerns only rows under one number, in a table or its table of validity rows. -/
inductive Change.Tagged (table : String) (seqno : UInt32) : Change → Prop
  | insert {target : String} {rows : List StoredRow} :
      target = table ∨ target = validityTable table → (∀ row ∈ rows, row.seqno = seqno) →
      Tagged table seqno (.insert target rows)
  | delete {target : String} : target = table ∨ target = validityTable table →
      Tagged table seqno (.delete target seqno)

theorem Change.Tagged.confined {table : String} {seqno : UInt32} {change : Change}
    (hTagged : change.Tagged table seqno) {before after : Store}
    (h : change.take? before = some after) : Confined table [seqno] before after where
  elsewhere other hTable hValidity := by
    refine Change.take?_other h ?_
    cases hTagged with
    | insert hTarget | delete hTarget => obtain rfl | rfl := hTarget <;> assumption
  others other number hNumber := by
    rw [List.mem_singleton] at hNumber
    by_cases hOther : other = change.table
    · subst hOther
      cases hTagged with
      | @insert target rows hTarget hRows =>
        have hNone : rows.filter (fun row => row.seqno == number) = [] := by
          apply List.filter_eq_nil_iff.mpr
          intro row hMem
          simpa [hRows row hMem] using Ne.symm hNumber
        rw [Change.table, Change.insert_rowsUnder h, hNone, List.append_nil]
      | delete hTarget => exact Change.delete_rowsUnder_ne h hNumber
    · exact Change.rowsUnder_other h hOther number

section Protocol

variable {backend : Backend σ} {store : σ → Store} {world after : σ}

/-- Nothing is left under a number in a table and its table of validity rows. -/
def Store.Lacks (store : Store) (table : String) (seqno : UInt32) : Prop :=
  store.rowsUnder table seqno = [] ∧ store.rowsUnder (validityTable table) seqno = []

theorem statement_confined (hAtomic : Atomic backend.services store) {sql table : String}
    {seqno : UInt32} {change : Change} (hWrites : Writes sql change)
    (hTagged : change.Tagged table seqno) {outcome : Except UpdateError (List String)}
    (h : backend.Traces world [.statement sql outcome] after) :
    Confined table [seqno] (store world) (store after) := by
  have hSettles := hAtomic.changed hWrites h
  cases outcome with
  | error e =>
    have hSame : store after = store world := hSettles
    rw [hSame]
    exact .refl ..
  | ok lines => exact hTagged.confined hSettles

/-- After rows were to be deleted, there are none: the statement took effect, or there is no such
table. -/
theorem delete_leaves_nothing (hAtomic : Atomic backend.services store)
    (hCleans : backend.Cleans store) {table : String} (hName : IsName table) {seqno : UInt32}
    {outcome : Except UpdateError (List String)}
    (h : backend.Traces world [.statement (Statement.deleteFrom table seqno) outcome] after) :
    (store after).rowsUnder table seqno = [] := by
  have hSettles := hAtomic.changed (.deleteFrom hName) h
  cases outcome with
  | ok lines => exact Change.delete_rowsUnder hSettles
  | error e =>
    have hSame : store after = store world := hSettles
    cases hTable : store world table with
    | none => simp [hSame, Store.rowsUnder, hTable]
    | some rows =>
      -- The table exists, so removing its rows would have succeeded.
      have hOutcome := Backend.query_of_traces { world } h
      obtain ⟨lines, hCleaned⟩ := hCleans table seqno { world } hName (by simp [hTable])
      rw [hOutcome] at hCleaned
      cases hCleaned

theorem removes_store (hAtomic : Atomic backend.services store) (hCleans : backend.Cleans store)
    {table : String} (hName : IsName table) {seqno : UInt32} {events : List Event}
    (hRemoves : Removes table seqno .durable events) (h : backend.Traces world events after) :
    Confined table [seqno] (store world) (store after) ∧ (store after).Lacks table seqno := by
  obtain ⟨rows, validity⟩ := hRemoves
  obtain ⟨middle, hRows, hValidity⟩ := h.uncons
  have hNameValidity := isName_validityTable hName
  have hFirst := statement_confined hAtomic (.deleteFrom hName) (.delete (.inl rfl)) hRows
  have hSecond :=
    statement_confined hAtomic (.deleteFrom hNameValidity) (.delete (.inr rfl)) hValidity
  refine ⟨hFirst.trans_same hSecond, ?_, ?_⟩
  · have hSettles := hAtomic.changed (.deleteFrom hNameValidity) hValidity
    rw [hSettles.rowsUnder_other (validityTable_ne table).symm seqno]
    exact delete_leaves_nothing hAtomic hCleans hName hRows
  · exact delete_leaves_nothing hAtomic hCleans hNameValidity hValidity

theorem ensures_store (hAtomic : Atomic backend.services store) {header : Header}
    (hName : IsName header.table) {probe : Option String}
    (hAsks : backend.Asks header.validityTable probe) {events : List Event}
    {created : Except UpdateError Bool}
    (hEnsures : Ensures .durable probe (Written.creation "CREATE TABLE" header) events created)
    (h : backend.Traces world events after) :
    Confined header.table [] (store world) (store after) := by
  rw [← Written.createValidityTable_eq] at hEnsures
  have hMisses {events : List Event} {missing : Except UpdateError Bool} {after : σ}
      (hMisses : Misses probe .durable events missing) (h : backend.Traces world events after) :
      store after = store world := by
    obtain ⟨hProbes⟩ := hMisses
    exact hAtomic.probed hAsks hProbes h
  have hCreate {before : List Event} {outcome : Except UpdateError (List String)}
      (hBefore : Misses probe .durable before (.ok true))
      (h : backend.Traces world
        (before ++ [.statement (Statement.createValidityTable "CREATE TABLE" header) outcome])
        after) :
      Confined header.table [] (store world) (store after) := by
    obtain ⟨middle, hProbing, hStatement⟩ := h.split
    rw [← hMisses hBefore hProbing]
    have hSettles := hAtomic.changed (.createValidityTable hName) hStatement
    cases outcome with
    | error e =>
      have hSame : store after = store middle := hSettles
      rw [hSame]
      exact .refl ..
    | ok lines =>
      exact {
        elsewhere := fun other _ hValidity => Change.take?_other hSettles hValidity
        others := fun other seqno _ => Change.create_rowsUnder hSettles other seqno }
  cases hEnsures with
  | unknown hBefore | present hBefore =>
    rw [hMisses hBefore h]
    exact .refl ..
  | created _ hBefore | refused _ hBefore => exact hCreate hBefore h

theorem refused_store (hAtomic : Atomic backend.services store) {table : String} {scope : Scope}
    {events : List Event} {e : UpdateError}
    (hAcquires : Acquires table scope .durable events (.error e))
    (h : backend.Traces world events after) : numbers events = [] ∧ store after = store world := by
  cases hAcquires
  exact ⟨rfl, hAtomic.requested h⟩

theorem acquired_store (hAtomic : Atomic backend.services store) (hCleans : backend.Cleans store)
    {table : String} (hName : IsName table) {scope : Scope} {events : List Event} {seqno : UInt32}
    (hAcquires : Acquires table scope .durable events (.ok seqno))
    (h : backend.Traces world events after) :
    numbers events = [(table, seqno)] ∧
      Confined table [seqno] (store world) (store after) ∧ (store after).Lacks table seqno := by
  cases hAcquires with
  | allocated hRemoves =>
    obtain ⟨middle, hRequest, hRemoval⟩ := h.uncons
    have hSame := hAtomic.requested hRequest
    obtain ⟨hConfined, hLacks⟩ := removes_store hAtomic hCleans hName hRemoves hRemoval
    rw [hSame] at hConfined
    refine ⟨?_, hConfined, hLacks⟩
    exact congrArg ((table, seqno) :: ·) hRemoves.numbers_eq

/-- Statements that concern one number, as far as they succeed. -/
theorem succeeds_confined (hAtomic : Atomic backend.services store) {table : String}
    {seqno : UInt32} {statements : List String} {events : List Event}
    (hWrites : ∀ sql ∈ statements, ∃ change, Writes sql change ∧ change.Tagged table seqno)
    (hSucceeds : Succeeds statements events) (h : backend.Traces world events after) :
    Confined table [seqno] (store world) (store after) := by
  induction hSucceeds generalizing world with
  | nil =>
    rw [h.nil_eq]
    exact .refl ..
  | @cons sql _ rest _ hEvent _ ih =>
    obtain ⟨lines, rfl⟩ := hEvent
    obtain ⟨middle, hFirst, hLater⟩ := h.uncons
    obtain ⟨change, hSql, hTagged⟩ := hWrites sql (by simp)
    exact (statement_confined hAtomic hSql hTagged hFirst).trans_same
      (ih (fun sql hMem => hWrites sql (by simp [hMem])) hLater)

/-- Statements that insert groups of rows append these rows, and nothing else happens. -/
theorem inserts_store (hAtomic : Atomic backend.services store) {table : String}
    (hName : IsName table) {seqno : UInt32} {groups : List (List (String × Nat))}
    (hGroups : ∀ group ∈ groups, group ≠ [] ∧ ∀ row ∈ group, IsPlain row.1) {events : List Event}
    (hSucceeds : Succeeds (groups.map (Statement.insertGroup table seqno)) events)
    (h : backend.Traces world events after) :
    (store after).rowsUnder table seqno =
        (store world).rowsUnder table seqno ++ groups.flatten.map (storedRow seqno) ∧
      (store after).rowsUnder (validityTable table) seqno =
        (store world).rowsUnder (validityTable table) seqno := by
  induction groups generalizing world events with
  | nil =>
    cases hSucceeds
    simp [h.nil_eq]
  | cons group rest ih =>
    obtain _ | ⟨⟨lines, rfl⟩, hRest⟩ := hSucceeds
    obtain ⟨middle, hFirst, hLater⟩ := h.uncons
    obtain ⟨hNonempty, hPlain⟩ := hGroups group (by simp)
    have hTaken : (Change.insert table (group.map (storedRow seqno))).take? (store world) =
        some (store middle) := hAtomic.changed (.insertRows hName hNonempty hPlain) hFirst
    obtain ⟨hRows, hValidity⟩ := ih (fun group hMem => hGroups group (by simp [hMem])) hRest hLater
    have hTags : (group.map (storedRow seqno)).filter (fun row => row.seqno == seqno) =
        group.map (storedRow seqno) := by
      apply List.filter_eq_self.mpr
      intro row hMem
      obtain ⟨_, -, rfl⟩ := List.mem_map.mp hMem
      simp [storedRow]
    rw [hRows, hValidity, Change.insert_rowsUnder hTaken, hTags,
      Change.rowsUnder_other hTaken (validityTable_ne table)]
    simp

theorem isPlain_of_mem_group {rows : List String} {groups : List (List (String × Nat))}
    (hFlatten : groups.flatten = rows.zipIdx) (hPlain : ∀ row ∈ rows, IsPlain row)
    {group : List (String × Nat)} (hGroup : group ∈ groups) {row : String × Nat}
    (hRow : row ∈ group) : IsPlain row.1 := by
  have hIndexed : row ∈ rows.zipIdx := hFlatten ▸ List.mem_flatten_of_mem hGroup hRow
  exact hPlain row.1 (List.fst_mem_of_mem_zipIdx hIndexed)

theorem storing_tagged {settings : BlockSettings} {inserted : String} {header : Header}
    {rows : Rows} {seqno : UInt32} (hName : IsName header.table)
    (hPlain : ∀ row ∈ rows.toList, IsPlain row) :
    ∀ sql ∈ storingStatements settings inserted header rows seqno,
      ∃ change, Writes sql change ∧ change.Tagged header.table seqno := by
  obtain ⟨groups, ⟨hFlatten, hGroups⟩, hStatements⟩ :=
    storingStatements_groups settings inserted header rows seqno
  intro sql hSql
  rw [hStatements, List.mem_append] at hSql
  obtain hSql | hSql := hSql
  · obtain ⟨group, hGroup, rfl⟩ := List.mem_map.mp hSql
    have hPlainGroup : ∀ row ∈ group, IsPlain row.1 := fun row hRow =>
      isPlain_of_mem_group hFlatten hPlain hGroup hRow
    refine ⟨_, .insertRows hName (hGroups group hGroup) hPlainGroup, .insert (.inl rfl) ?_⟩
    intro row hRow
    obtain ⟨_, -, rfl⟩ := List.mem_map.mp hRow
    rfl
  · obtain rfl := List.mem_singleton.mp hSql
    exact ⟨_, .insertValidityRow hName, .insert (.inr rfl) (by simp [validityRow])⟩

/-- The rows of a block with one validity row are stored under a number. -/
def Store.Holds (store : Store) (header : Header) (seqno : UInt32) (rows : List String)
    (inserted : String) : Prop :=
  store.rowsUnder header.table seqno = rows.zipIdx.map (storedRow seqno) ∧
    store.rowsUnder header.validityTable seqno = [validityRow header seqno inserted]

/-- What statements that store a block leave under its number: the whole block, or nothing. -/
def Store.HoldsOrLacks (store : Store) (header : Header) (seqno : UInt32) (rows : List String)
    (inserted : String) : Except UpdateError Unit → Prop
  | .ok _ => store.Holds header seqno rows inserted
  | .error _ => store.Lacks header.table seqno

/-- Where nothing was left under a number, the statements that store a block leave the block. -/
theorem storing_holds (hAtomic : Atomic backend.services store) {settings : BlockSettings}
    {inserted : String} {header : Header} {rows : Rows} {seqno : UInt32}
    (hName : IsName header.table) (hPlain : ∀ row ∈ rows.toList, IsPlain row)
    (hLacks : (store world).Lacks header.table seqno) {events : List Event}
    (hSucceeds : Succeeds (storingStatements settings inserted header rows seqno) events)
    (h : backend.Traces world events after) :
    (store after).Holds header seqno rows.toList inserted := by
  obtain ⟨groups, ⟨hFlatten, hGroups⟩, hStatements⟩ :=
    storingStatements_groups settings inserted header rows seqno
  rw [hStatements] at hSucceeds
  obtain ⟨inserting, last, rfl, hInserting, hLast⟩ := hSucceeds.split
  obtain _ | ⟨⟨lines, rfl⟩, hNil⟩ := hLast
  cases hNil
  obtain ⟨middle, hRowsTraces, hValidityTraces⟩ := h.split
  have hPlainGroups : ∀ group ∈ groups, group ≠ [] ∧ ∀ row ∈ group, IsPlain row.1 :=
    fun group hGroup => ⟨hGroups group hGroup, fun row hRow =>
      isPlain_of_mem_group hFlatten hPlain hGroup hRow⟩
  obtain ⟨hRows, hValidity⟩ := inserts_store hAtomic hName hPlainGroups hInserting hRowsTraces
  have hTaken : (Change.insert header.validityTable
      [validityRow header seqno inserted]).take? (store middle) = some (store after) :=
    hAtomic.changed (.insertValidityRow hName) hValidityTraces
  have hOther : header.table ≠ header.validityTable := (validityTable_ne header.table).symm
  constructor
  · rw [Change.rowsUnder_other hTaken hOther, hRows, hLacks.1, hFlatten, List.nil_append]
  · rw [Change.insert_rowsUnder hTaken]
    change (store middle).rowsUnder (validityTable header.table) seqno ++ _ = _
    rw [hValidity, hLacks.2]
    simp [validityRow]

theorem stores_store (hAtomic : Atomic backend.services store) (hCleans : backend.Cleans store)
    {settings : BlockSettings} {inserted : String} {header : Header} {rows : Rows} {seqno : UInt32}
    (hName : IsName header.table) (hPlain : ∀ row ∈ rows.toList, IsPlain row)
    (hLacks : (store world).Lacks header.table seqno) {events : List Event}
    {result : Except UpdateError Unit}
    (hStores : Stores .durable header.table seqno
      (storingStatements settings inserted header rows seqno) events result)
    (h : backend.Traces world events after) :
    Confined header.table [seqno] (store world) (store after) ∧
      (store after).HoldsOrLacks header seqno rows.toList inserted result := by
  have hTagged : ∀ sql ∈ storingStatements settings inserted header rows seqno,
      ∃ change, Writes sql change ∧ change.Tagged header.table seqno := storing_tagged hName hPlain
  cases hStores with
  | all hSucceeds =>
    have hHolds := storing_holds hAtomic hName hPlain hLacks hSucceeds h
    exact ⟨succeeds_confined hAtomic hTagged hSucceeds h, hHolds⟩
  | @failed done rest sql e before removal hStatements hDone hRemoves =>
    obtain ⟨stopped, hBefore, hAfter⟩ := h.split
    obtain ⟨failed, hFailing, hRemoval⟩ := hAfter.uncons
    have hDoneTagged : ∀ sql ∈ done,
        ∃ change, Writes sql change ∧ change.Tagged header.table seqno := fun sql hMem =>
      hTagged sql (hStatements ▸ List.mem_append_left _ hMem)
    obtain ⟨change, hWrites, hChange⟩ := hTagged sql (hStatements ▸ by simp)
    obtain ⟨hCleared, hNothing⟩ := removes_store hAtomic hCleans hName hRemoves hRemoval
    have hBeforeConfined := succeeds_confined hAtomic hDoneTagged hDone hBefore
    have hFailingConfined := statement_confined hAtomic hWrites hChange hFailing
    exact ⟨(hBeforeConfined.trans_same hFailingConfined).trans_same hCleared, hNothing⟩

/-- What an application leaves of a block: all of it, or nothing. -/
structure Leaves (header : Header) (rows : List String) (handed : List (String × UInt32))
    (before after : Store) (result : Except UpdateError BlockReport) : Prop where
  confined : Confined header.table (handed.map Prod.snd) before after
  table : ∀ entry ∈ handed, entry.1 = header.table
  stored : ∀ report, result = .ok report →
    report.table = header.table ∧ handed = [(header.table, report.seqno)] ∧
    ∃ inserted, after.Holds header report.seqno rows inserted
  removed : ∀ e, result = .error e → ∀ entry ∈ handed, after.Lacks header.table entry.2

theorem Leaves.nothing {header : Header} {rows : List String} {before after : Store}
    (h : Confined header.table [] before after) (e : UpdateError) :
    Leaves header rows [] before after (.error e) where
  confined := h
  table := by simp
  stored := by simp
  removed := by simp

/-- An application that came to store its block, whether or not it succeeded. -/
theorem numbered_store (hAtomic : Atomic backend.services store) (hCleans : backend.Cleans store)
    {probe : Option String} {settings : BlockSettings} {inserted : String} {header : Header}
    {rows : Rows} (hName : IsName header.table) (hPlain : ∀ row ∈ rows.toList, IsPlain row)
    (hAsks : backend.Asks header.validityTable probe) {opening number storing : List Event}
    {created : Bool} {seqno : UInt32} {result : Except UpdateError Unit}
    (hEnsures : Ensures .durable probe (Written.creation "CREATE TABLE" header) opening
      (.ok created))
    (hAcquires : Acquires header.table settings.scope .durable number (.ok seqno))
    (hStores : Stores .durable header.table seqno
      (storingStatements settings inserted header rows seqno) storing result)
    (h : backend.Traces world (opening ++ number ++ storing) after) :
    numbers (opening ++ number ++ storing) = [(header.table, seqno)] ∧
      Confined header.table [seqno] (store world) (store after) ∧
      (store after).HoldsOrLacks header seqno rows.toList inserted result := by
  obtain ⟨numbered, hNumbered, hStoring⟩ := h.split
  obtain ⟨opened, hOpening, hNumber⟩ := hNumbered.split
  have hOpened := ensures_store hAtomic hName hAsks hEnsures hOpening
  obtain ⟨hHanded, hCleared, hLacks⟩ := acquired_store hAtomic hCleans hName hAcquires hNumber
  obtain ⟨hStored, hLeft⟩ := stores_store hAtomic hCleans hName hPlain hLacks hStores hStoring
  rw [numbers_append, numbers_append, hEnsures.numbers_eq, hHanded, hStores.numbers_eq]
  exact ⟨rfl, (hOpened.trans hCleared).trans_same hStored, hLeft⟩

theorem application_store (hAtomic : Atomic backend.services store)
    (hCleans : backend.Cleans store) (hMode : backend.mode = .durable) {probe : Option String}
    {settings : BlockSettings} {inserted : String} {header : Header} {rows : Rows}
    (hName : IsName header.table) (hPlain : ∀ row ∈ rows.toList, IsPlain row)
    (hAsks : backend.Asks header.validityTable probe) {events : List Event}
    {result : Except UpdateError BlockReport} {stage : Stage}
    (hApplication : Application backend.mode backend.createKeyword probe settings inserted header
      rows events (result, stage))
    (h : backend.Traces world events after) :
    Leaves header rows.toList (numbers events) (store world) (store after) result := by
  have hKeyword : backend.createKeyword = "CREATE TABLE" := by rw [Backend.createKeyword, hMode]
  rw [hMode, hKeyword] at hApplication
  cases hApplication with
  | notEnsured hEnsures =>
    have hOpened := ensures_store hAtomic hName hAsks hEnsures h
    rw [hEnsures.numbers_eq]
    exact .nothing hOpened _
  | notAcquired hEnsures hAcquires =>
    obtain ⟨opened, hOpening, hNumber⟩ := h.split
    have hOpened := ensures_store hAtomic hName hAsks hEnsures hOpening
    obtain ⟨hNone, hSame⟩ := refused_store hAtomic hAcquires hNumber
    rw [numbers_append, hEnsures.numbers_eq, hNone, hSame]
    exact .nothing hOpened _
  | @notStored opening number storing created seqno e hEnsures hAcquires hStores =>
    obtain ⟨hHanded, hConfined, hNothing⟩ :=
      numbered_store hAtomic hCleans hName hPlain hAsks hEnsures hAcquires hStores h
    rw [hHanded]
    exact {
      confined := hConfined
      table := by simp
      stored := by simp
      removed := by
        intro _ _ entry hMem
        cases List.mem_singleton.mp hMem
        exact hNothing }
  | @stored opening number storing created seqno hEnsures hAcquires hStores =>
    obtain ⟨hHanded, hConfined, hHolds⟩ :=
      numbered_store hAtomic hCleans hName hPlain hAsks hEnsures hAcquires hStores h
    rw [hHanded]
    exact {
      confined := hConfined
      table := by simp
      stored := by
        intro report hReport
        cases hReport
        exact ⟨rfl, rfl, inserted, hHolds⟩
      removed := by simp }

namespace UpdateFile

theorem begins_store (hAtomic : Atomic backend.services store) {line : String}
    {events : List Event} {begun : Except UpdateError Header}
    (hBegins : Begins backend line events begun) (h : backend.Traces world events after) :
    numbers events = [] ∧ store after = store world := by
  cases hBegins with
  | unreadable =>
    rw [h.nil_eq]
    exact ⟨rfl, rfl⟩
  | unknown _ hAsks hProbes | missing _ hAsks hProbes | misdated _ hAsks hProbes
  | begun _ hAsks hProbes => exact ⟨hProbes.numbers_eq, hAtomic.probed hAsks hProbes h⟩

theorem closes_store (hAtomic : Atomic backend.services store) (hCleans : backend.Cleans store)
    (hMode : backend.mode = .durable) {settings : BlockSettings} {header : Header} {rows : Rows}
    (hName : IsName header.table) (hPlain : ∀ row ∈ rows.toList, IsPlain row) {events : List Event}
    {result : Except UpdateError BlockReport}
    (hCloses : Closes backend settings header rows [] events result)
    (h : backend.Traces world events after) :
    Leaves header rows.toList (numbers events) (store world) (store after) result := by
  cases hCloses with
  | interrupted hRan =>
    obtain rfl := hRan.events_nil
    rw [h.nil_eq]
    exact .nothing (.refl ..) _
  | empty inserted hBefore =>
    cases hBefore
    rw [hAtomic.timed h]
    exact .nothing (.refl ..) _
  | applied hBefore hRows hAsks hApplication =>
    cases hBefore
    rw [List.nil_append] at h
    obtain ⟨timed, hClock, hApplying⟩ := h.uncons
    rw [List.nil_append, numbers_clock, ← hAtomic.timed hClock]
    exact application_store hAtomic hCleans hMode hName hPlain hAsks hApplication hApplying

/-- The section is stored under the number that its report names. -/
def Section.StoredIn (settings : BlockSettings) (store : Store) (part : Section)
    (report : BlockReport) : Prop :=
  ∃ header inserted, Header.parse part.header = .ok header ∧ report.table = header.table ∧
    store.Holds header report.seqno (part.texts settings) inserted

/-- What an update leaves of its sections: the ones it applied as a whole, and nothing of others.
`handed` are the numbers that were handed out to it. -/
structure AllOrNothing (settings : BlockSettings) (parts : List Section)
    (reports : List BlockReport) (handed : List (String × UInt32))
    (outcome : Except UpdateError Unit) (before after : Store) : Prop where
  others : ∀ table seqno, seqno ∉ handed.map Prod.snd →
    after.rowsUnder table seqno = before.rowsUnder table seqno
  elsewhere : ∀ table,
    (∀ part ∈ parts, ∀ header, Header.parse part.header = .ok header →
      table ≠ header.table ∧ table ≠ header.validityTable) →
    after table = before table
  applied : ∃ done rest, parts = done ++ rest ∧
    List.Forall₂ (Section.StoredIn settings after) done reports ∧ (outcome = .ok () → rest = [])
  abandoned : ∀ table seqno, (table, seqno) ∈ handed → seqno ∉ reports.map (·.seqno) →
    after.Lacks table seqno

theorem Section.StoredIn.kept {settings : BlockSettings} {before after : Store} {part : Section}
    {report : BlockReport} (h : part.StoredIn settings before report)
    (hKept : ∀ table, after.rowsUnder table report.seqno = before.rowsUnder table report.seqno) :
    part.StoredIn settings after report := by
  obtain ⟨header, inserted, hParse, hTable, hRows, hValidity⟩ := h
  exact ⟨header, inserted, hParse, hTable, (hKept _).trans hRows, (hKept _).trans hValidity⟩

theorem AllOrNothing.nothing {settings : BlockSettings} {parts : List Section} {store : Store}
    {outcome : Except UpdateError Unit} (h : outcome = .ok () → parts = []) :
    AllOrNothing settings parts [] [] outcome store store where
  others _ _ _ := rfl
  elsewhere _ _ := rfl
  applied := ⟨[], parts, rfl, .nil, h⟩
  abandoned := by simp

theorem allOrNothing_of_stored {settings : BlockSettings} {part : Section} {rest : List Section}
    {header : Header} {rows : List String} {handed later : List (String × UInt32)}
    {before middle after : Store} {report : BlockReport} {reports : List BlockReport}
    {outcome : Except UpdateError Unit} (hParse : Header.parse part.header = .ok header)
    (hTexts : rows = part.texts settings)
    (hDistinct : ((handed ++ later).map Prod.snd).Nodup)
    (h : Leaves header rows handed before middle (.ok report))
    (hLater : AllOrNothing settings rest reports later outcome middle after) :
    AllOrNothing settings (part :: rest) (report :: reports) (handed ++ later) outcome before
      after := by
  obtain ⟨hTable, rfl, inserted, hHolds⟩ := h.stored report rfl
  rw [List.singleton_append, List.map_cons] at hDistinct
  have hFresh : report.seqno ∉ later.map Prod.snd := (List.nodup_cons.mp hDistinct).1
  have hStored : part.StoredIn settings middle report :=
    ⟨header, inserted, hParse, hTable, hTexts ▸ hHolds⟩
  obtain ⟨done, left, hParts, hDone, hOutcome⟩ := hLater.applied
  exact {
    others := by
      intro table seqno hSeqno
      rw [List.map_append, List.mem_append, not_or] at hSeqno
      rw [hLater.others table seqno hSeqno.2, h.confined.others table seqno hSeqno.1]
    elsewhere := by
      intro table hOther
      obtain ⟨hRows, hValidity⟩ := hOther part (by simp) header hParse
      rw [hLater.elsewhere table fun next hMem => hOther next (by simp [hMem]),
        h.confined.elsewhere table hRows hValidity]
    applied := by
      refine ⟨part :: done, left, by rw [hParts, List.cons_append], .cons ?_ hDone, hOutcome⟩
      exact hStored.kept fun table => hLater.others table _ hFresh
    abandoned := by
      intro table seqno hMem hApplied
      rw [List.map_cons, List.mem_cons, not_or] at hApplied
      obtain hFirst | hMem := List.mem_append.mp hMem
      · cases List.mem_singleton.mp hFirst
        exact absurd rfl hApplied.1
      · exact hLater.abandoned table seqno hMem hApplied.2 }

theorem allOrNothing_of_failed {settings : BlockSettings} {part : Section} {rest : List Section}
    {header : Header} {rows : List String} {handed : List (String × UInt32)}
    {before after : Store} {e : UpdateError} (hParse : Header.parse part.header = .ok header)
    (h : Leaves header rows handed before after (.error e)) :
    AllOrNothing settings (part :: rest) [] handed (.error e) before after where
  others := h.confined.others
  elsewhere table hOther := by
    obtain ⟨hRows, hValidity⟩ := hOther part (by simp) header hParse
    exact h.confined.elsewhere table hRows hValidity
  applied := ⟨[], part :: rest, rfl, .nil, by simp⟩
  abandoned table seqno hMem _ := by
    have hTable : table = header.table := h.table _ hMem
    exact hTable ▸ h.removed e rfl _ hMem

theorem section_store (hAtomic : Atomic backend.services store) (hCleans : backend.Cleans store)
    (hMode : backend.mode = .durable) {settings : BlockSettings} {part : Section} {header : Header}
    (hStatements : part.statements = []) (hPlain : ∀ line ∈ part.rows, IsPlain line)
    {probing closing : List Event} {result : Except UpdateError BlockReport}
    (hBegins : Begins backend part.header probing (.ok header))
    (hCloses : Closes backend settings header (collected settings.convertUnsigned {} part.rows)
      part.statements closing result)
    (h : backend.Traces world closing after) :
    Header.parse part.header = .ok header ∧
      Leaves header (part.texts settings) (numbers closing) (store world) (store after) result := by
  obtain _ | _ | _ | _ | ⟨hParse, -, -, -⟩ := hBegins
  have hTexts : (collected settings.convertUnsigned {} part.rows).toList = part.texts settings :=
    collected_toList settings.convertUnsigned {} part.rows
  have hPlainTexts : ∀ row ∈ (collected settings.convertUnsigned {} part.rows).toList,
      IsPlain row := by
    rw [hTexts]
    intro row hMem
    obtain ⟨line, hLine, rfl⟩ := List.mem_map.mp hMem
    exact isPlain_stored _ (hPlain line hLine)
  rw [hStatements] at hCloses
  rw [← hTexts]
  exact ⟨hParse, closes_store hAtomic hCleans hMode (Header.parse_isName hParse) hPlainTexts
    hCloses h⟩

theorem updates_store (hAtomic : Atomic backend.services store) (hCleans : backend.Cleans store)
    (hMode : backend.mode = .durable) {settings : BlockSettings} {parts : List Section}
    {reports : List BlockReport} {events : List Event} {outcome : Except UpdateError Unit}
    (hStatements : ∀ part ∈ parts, part.statements = [])
    (hPlain : ∀ part ∈ parts, ∀ line ∈ part.rows, IsPlain line)
    (hDistinct : ((numbers events).map Prod.snd).Nodup)
    (hUpdates : Updates backend settings parts reports events outcome)
    (h : backend.Traces world events after) :
    AllOrNothing settings parts reports (numbers events) outcome (store world) (store after) := by
  induction hUpdates generalizing world with
  | done =>
    rw [h.nil_eq]
    exact .nothing fun _ => rfl
  | refused hBegins =>
    obtain ⟨hNone, hSame⟩ := begins_store hAtomic hBegins h
    rw [hNone, hSame]
    exact .nothing (by simp)
  | @failed first rest header probing closing e hBegins hFailed =>
    obtain ⟨begun, hProbing, hClosing⟩ := h.split
    obtain ⟨hNone, hSame⟩ := begins_store hAtomic hBegins hProbing
    obtain ⟨hParse, hLeaves⟩ := section_store hAtomic hCleans hMode (hStatements _ (by simp))
      (hPlain _ (by simp)) hBegins hFailed hClosing
    rw [numbers_append, hNone, List.nil_append, ← hSame]
    exact allOrNothing_of_failed hParse hLeaves
  | @applied first rest header probing closing later report reports outcome hBegins hApplied _ ih =>
    obtain ⟨closed, hFirst, hLater⟩ := h.split
    obtain ⟨begun, hProbing, hClosing⟩ := hFirst.split
    obtain ⟨hNone, hSame⟩ := begins_store hAtomic hBegins hProbing
    obtain ⟨hParse, hLeaves⟩ := section_store hAtomic hCleans hMode (hStatements _ (by simp))
      (hPlain _ (by simp)) hBegins hApplied hClosing
    -- The later numbers are others, so what was stored here is kept.
    rw [numbers_append, numbers_append, hNone, List.nil_append] at hDistinct ⊢
    rw [← hSame]
    refine allOrNothing_of_stored hParse rfl hDistinct hLeaves (ih ?_ ?_ ?_ hLater)
    · exact fun part hMem => hStatements part (by simp [hMem])
    · exact fun part hMem => hPlain part (by simp [hMem])
    · rw [List.map_append] at hDistinct
      exact hDistinct.of_append_right

theorem proceeds_store (hAtomic : Atomic backend.services store) (hCleans : backend.Cleans store)
    (hMode : backend.mode = .durable) {settings : BlockSettings} {items : List Item}
    {reports : List BlockReport} {events : List Event} {outcome : Except UpdateError Unit}
    (hStatements : ∀ text, .statement text ∉ items)
    (hPlain : ∀ n line, .row n line ∈ items → IsPlain line)
    (hDistinct : ((numbers events).map Prod.snd).Nodup)
    (hProceeds : Proceeds backend settings items reports events outcome)
    (h : backend.Traces world events after) :
    AllOrNothing settings (sections items) reports (numbers events) outcome (store world)
      (store after) := by
  have hLeading : leadingStatements items = [] :=
    List.eq_nil_iff_forall_not_mem.mpr fun text hMem =>
      hStatements text (mem_of_mem_leadingStatements hMem)
  cases hProceeds with
  | interrupted hRan =>
    rw [hLeading] at hRan
    obtain rfl := hRan.events_nil
    rw [h.nil_eq]
    exact .nothing (by simp)
  | updated hRows hSucceeds hUpdates =>
    rw [hLeading] at hSucceeds
    cases hSucceeds
    refine updates_store hAtomic hCleans hMode ?_ ?_ hDistinct hUpdates h
    · intro part hPart
      exact List.eq_nil_iff_forall_not_mem.mpr fun text hMem =>
        hStatements text ((mem_of_mem_section hPart).2 text hMem)
    · intro part hPart line hMem
      obtain ⟨n, hRow⟩ := (mem_of_mem_section hPart).1 line hMem
      exact hPlain n line hRow

/-- All or nothing for each block of a file without raw statements: an update leaves every block it
has applied as a whole, and nothing under the other numbers that it was given. -/
theorem apply_allOrNothing (hAtomic : Atomic backend.services store)
    (hCleans : backend.Cleans store) (hMode : backend.mode = .durable) {settings : BlockSettings}
    {lines : List SourceLine} {session : Session σ}
    (hStatements : ∀ text, .statement text ∉ items lines)
    (hPlain : ∀ n line, .row n line ∈ items lines → IsPlain line)
    (hDistinct : ((handedOut (calls backend settings lines session)).map Prod.snd).Nodup) :
    let ended := run backend settings {} (items lines) session
    UpdateFile.apply backend settings lines session = (ended.1.result, ended.2) ∧
      AllOrNothing settings (sections (items lines)) ended.1.reached.blocks.toList
        (handedOut (calls backend settings lines session)) ended.1.outcome (store session.world)
        (store ended.2.world) := by
  refine ⟨apply_eq_run backend settings lines session, ?_⟩
  obtain ⟨events, hProceeds, hRealizes, hPath⟩ := apply_proceeds backend settings lines session
  rw [handedOut_of_realizes hRealizes] at hDistinct ⊢
  exact proceeds_store hAtomic.recorded hCleans.recorded hMode hStatements hPlain hDistinct
    hProceeds ⟨_, hPath, hRealizes⟩

end UpdateFile

end Protocol

theorem Tables.execute_numbers (sql : String) (tables : Tables) :
    (Tables.execute sql tables).2.numbers = tables.numbers := by
  unfold Tables.execute
  split
  · rename_i change _
    simp only [Tables.take]
    split
    · rfl
    · cases change.take? tables.store <;> rfl
  · rfl

/-- Numbers that are handed out are used up. -/
theorem Tables.handedOut_append {tables after : Tables} {calls : List Call}
    (h : Path Tables.services tables calls after) :
    (handedOut calls).map Prod.snd ++ after.numbers = tables.numbers := by
  induction h with
  | nil => rfl
  | @execute sql answer before middle _ _ hAnswer _ ih =>
    have hNumbers := Tables.execute_numbers sql before
    rw [show Tables.execute sql before = (answer, middle) from hAnswer] at hNumbers
    rw [← hNumbers]
    exact ih
  | @allocate table scope answer before middle _ _ hAnswer _ ih =>
    obtain ⟨store, numbers, losses⟩ := before
    cases numbers with
    | nil =>
      cases hAnswer
      exact ih
    | cons seqno numbers =>
      cases hAnswer
      exact congrArg (seqno :: ·) ih
  | clock hDate _ ih =>
    cases hDate
    exact ih

namespace UpdateFile

/-- A file with a comment between two rows. -/
def commentedLines : List SourceLine := [commentedHeader, "1,2", "# 3,4", "5,6"].map .ok

/-- A table with rows under two numbers, of which one is handed out again. One statement of the
update is lost with its connection. -/
def reusedTables : Tables where
  store table := if table = "DEMO" then some [⟨4, "1,7"⟩, ⟨5, "1,8"⟩] else none
  numbers := [5]
  losses := 1

theorem apply_allOrNothing_reused :
    let backend : Backend Tables :=
      { services := Tables.services, maxAttempts := 3, mode := .durable }
    let ended := run backend { scope := .locally } {} (items commentedLines)
      { world := reusedTables }
    AllOrNothing { scope := .locally } (sections (items commentedLines))
      ended.1.reached.blocks.toList
      (handedOut (calls backend { scope := .locally } commentedLines { world := reusedTables }))
      ended.1.outcome reusedTables.store ended.2.world.store := by
  have hItems : items commentedLines = [.header commentedHeader, .row 2 "1,2", .row 4 "5,6"] := by
    decide +kernel
  refine (apply_allOrNothing Tables.atomic (Tables.cleans 3) rfl ?_ ?_ ?_).2
  · simp [hItems]
  · intro n line hMem
    simp only [hItems, List.mem_cons, Item.row.injEq, reduceCtorEq, false_or, List.not_mem_nil,
      or_false] at hMem
    obtain ⟨-, rfl⟩ | ⟨-, rfl⟩ := hMem <;> simp [IsPlain]
  · obtain ⟨_, -, -, hPath⟩ := apply_proceeds
      { services := Tables.services, maxAttempts := 3, mode := .durable } { scope := .locally }
      commentedLines { world := reusedTables }
    have hRecorded : Path Tables.services.recorded _ _ _ := hPath
    have hHanded := Tables.handedOut_append hRecorded.forget
    have hNumbers : reusedTables.numbers.Nodup := List.nodup_singleton 5
    rw [← hHanded] at hNumbers
    exact hNumbers.of_append_left

end UpdateFile

end ValidityTables
