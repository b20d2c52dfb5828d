import ValidityTables.Proofs.Maintenance

/-! # Dropping a table

A table is dropped in four steps: it and its table of validity rows are dropped if they exist, and
then its entries are deleted from the two sequence tables if these exist. A step that fails has no
effect and ends the call. So what a call did is described by the steps that it completed, and a
later call completes the rest.
-/

namespace ValidityTables

variable {σ : Type} {look : String → String}

def tablesOf (name : String) : List String := [name, validityTable name]

def sequenceTables : List String := [localSequenceTable, globalSequenceTable]

theorem tablesOf_nodup (name : String) : (tablesOf name).Nodup := by
  have hApart : name ≠ validityTable name := by
    intro hSame
    have hLength := congrArg String.length hSame
    simp [validityTable] at hLength
  simpa [tablesOf] using hApart

/-- What is issued to drop a table if nothing fails. -/
def dropPlan (look : String → String) (name : String) (inventory : Inventory) : List String :=
  plan look Statement.dropTable (tablesOf name) inventory ++
    plan look (Statement.deleteSequenceEntries · name) sequenceTables
      (inventory.drop (tablesOf name))

/-- A call that drops a table, up to the first failure. -/
inductive Drops (look : String → String) (name : String) (before : Inventory) :
    List Event → Except UpdateError DropReport → Inventory → Prop
  | finished {events : List Event} : issued events = dropPlan look name before →
      (∀ table ∈ sequenceTables, (before.drop (tablesOf name)).has table = true →
        ∃ lines, .statement (Statement.deleteSequenceEntries table name) (.ok lines) ∈ events) →
      Drops look name before events
        (.ok {
          dropped := (tablesOf name).filter before.has
          clearedSequenceTables := sequenceTables.filter (before.drop (tablesOf name)).has })
        ((before.drop (tablesOf name)).clear name sequenceTables)
  | notDropped {events : List Event} {e : UpdateError} {done rest : List String} :
      tablesOf name = done ++ rest →
      issued events <+: plan look Statement.dropTable (tablesOf name) before →
      Drops look name before events (.error e) (before.drop done)
  | notCleared {events : List Event} {e : UpdateError} {done rest : List String} :
      sequenceTables = done ++ rest → issued events <+: dropPlan look name before →
      Drops look name before events (.error e) ((before.drop (tablesOf name)).clear name done)

namespace Updater

variable {updater : Updater σ} {inventory : σ → Inventory}

theorem dropExisting_eq (tables : List String) :
    updater.dropExisting tables = onExisting updater.backend Statement.dropTable tables := by
  induction tables with
  | nil => rfl
  | cons table rest ih => rw [dropExisting, onExisting, ih]

theorem clearExisting_eq (name : String) (tables : List String) :
    updater.clearExisting name tables =
      onExisting updater.backend (Statement.deleteSequenceEntries · name) tables := by
  induction tables with
  | nil => rfl
  | cons table rest ih => rw [clearExisting, onExisting, ih]

/-- In a durable run the tables are dropped first, and then the entries are deleted. -/
theorem dropTable_apply (hMode : updater.backend.mode = .durable) (name : String)
    (session : Session σ) :
    updater.dropTable name session =
      match onExisting updater.backend Statement.dropTable (tablesOf name) session with
      | (.error e, middle) => (.error e, middle)
      | (.ok dropped, middle) =>
        let ended := onExisting updater.backend (Statement.deleteSequenceEntries · name)
          sequenceTables middle
        (ended.1.map fun clearedSequenceTables => { dropped, clearedSequenceTables }, ended.2) := by
  unfold dropTable
  simp only [hMode, Action.bind_apply, dropExisting_eq, clearExisting_eq, tablesOf, sequenceTables]
  rcases onExisting updater.backend Statement.dropTable [name, validityTable name] session with
    ⟨_ | dropped, middle⟩
  · rfl
  · simp only
    rcases onExisting updater.backend (Statement.deleteSequenceEntries · name)
      [localSequenceTable, globalSequenceTable] middle with ⟨_ | _, _⟩ <;> rfl

theorem dropTable_traces (hMode : updater.backend.mode = .durable)
    (h : Inventoried updater.backend.services inventory look) {name : String}
    {session after : Session σ} {result : Except UpdateError DropReport}
    (hRan : updater.dropTable name session = (result, after)) :
    ∃ events, updater.backend.Traces session.world events after.world ∧
      Drops look name (inventory session.world) events result (inventory after.world) := by
  rw [dropTable_apply hMode] at hRan
  rcases hDrop : onExisting updater.backend Statement.dropTable (tablesOf name) session with
    ⟨dropped, middle⟩
  obtain ⟨dropping, hDropping, hDropped⟩ := onExisting_traces h steps_drop (tablesOf_nodup name)
    (fun table _ => h.dropped table) hDrop
  rw [hDrop] at hRan
  -- The second pair of steps begins at the inventory that the first one has left.
  generalize hMiddle : inventory middle.world = reached at hDropped
  cases hDropped with
  | stopped hDone hIssued =>
    cases hRan
    rw [hMiddle]
    exact ⟨dropping, hDropping, .notDropped hDone hIssued⟩
  | finished hIssued hEvents =>
    rcases hClear : onExisting updater.backend (Statement.deleteSequenceEntries · name)
      sequenceTables middle with ⟨cleared, last⟩
    obtain ⟨clearing, hClearing, hCleared⟩ := onExisting_traces h (steps_clear name) (by decide)
      (h.cleared name) hClear
    rw [hMiddle] at hCleared
    simp only [hClear] at hRan
    cases hRan
    generalize inventory after.world = final at hCleared ⊢
    have hTraces := hDropping.append hClearing
    cases hCleared with
    | stopped hDone hIssuedLater =>
      refine ⟨_, hTraces, .notCleared hDone ?_⟩
      rw [issued_append, hIssued]
      exact (List.prefix_append_right_inj _).mpr hIssuedLater
    | finished hIssuedLater hEventsLater =>
      refine ⟨_, hTraces, .finished ?_ fun table hMem hHas => ?_⟩
      · rw [issued_append, hIssued, hIssuedLater]
        rfl
      · obtain ⟨lines, hEvent⟩ := hEventsLater table hMem hHas
        exact ⟨lines, List.mem_append_right _ hEvent⟩

/-- The calls of dropping a table and what came of it. -/
theorem dropTable_calls (hMode : updater.backend.mode = .durable)
    (h : Inventoried updater.backend.services inventory look) (name : String)
    (session : Session σ) :
    let ended := updater.dropTable name session
    ∃ events, Realizes updater.backend.attempts events
        (updater.calls [] [.dropTable name] session) ∧
      Drops look name (inventory session.world) events ended.1 (inventory ended.2.world) := by
  intro ended
  rcases hRan : updater.recorded.dropTable name (session.recording []) with ⟨result, after⟩
  obtain ⟨events, ⟨calls, hPath, hRealizes⟩, hDrops⟩ :=
    @dropTable_traces _ look updater.recorded _ hMode h.recorded name _ _ _ hRan
  have hCalls : updater.calls [] [.dropTable name] session = calls := by
    have hAll : updater.calls [] [.dropTable name] session = after.world.calls :=
      congrArg (·.2.world.calls) hRan
    exact hAll.trans hPath.recorded
  have hEnded : ended = (result, after.forget) := by
    have hMirrors := updater.dropTable_mirrors name (session.recording [])
    rwa [hRan] at hMirrors
  rw [hCalls, hEnded]
  exact ⟨events, hRealizes, hDrops⟩

end Updater

theorem Updater.dropTable_faultless {updater : Updater σ} {inventory : σ → Inventory}
    (hMode : updater.backend.mode = .durable)
    (h : Faultless updater.backend.services inventory look) (name : String) (session : Session σ) :
    ∃ report, (updater.dropTable name session).1 = .ok report := by
  obtain ⟨dropped, middle, hDrop⟩ :=
    h.onExisting (fun table (_ : table ∈ tablesOf name) => h.drops table) session
  obtain ⟨cleared, after, hClear⟩ := h.onExisting (h.clears name) middle
  rw [Updater.dropTable_apply hMode, hDrop]
  simp only [sequenceTables, hClear]
  exact ⟨_, rfl⟩

theorem Statement.dropTable_ne_delete (table sequenceTable name : String) :
    Statement.dropTable table ≠ Statement.deleteSequenceEntries sequenceTable name := by
  intro hSame
  have hSecond := congrArg (·.toList[1]?) hSame
  simp [Statement.dropTable, Statement.deleteSequenceEntries] at hSecond

namespace Inventory

/-- A call that goes on from any point where another one stopped completes what that one left. -/
theorem completes {name : String} {before after : Inventory} {events : List Event}
    {e : UpdateError} (h : Drops look name before events (.error e) after) :
    (after.drop (tablesOf name)).clear name sequenceTables =
      (before.drop (tablesOf name)).clear name sequenceTables := by
  cases h with
  | notDropped hDone _ =>
    have hSome : ∀ table ∈ _, table ∈ tablesOf name := fun table hMem =>
      hDone ▸ List.mem_append_left _ hMem
    rw [drop_drop before hSome]
  | notCleared hDone _ =>
    have hSome : ∀ table ∈ _, table ∈ sequenceTables := fun table hMem =>
      hDone ▸ List.mem_append_left _ hMem
    rw [drop_clear_drop, clear_clear _ hSome]

/-- Which tables exist after a call that found neither of the two that it drops. -/
theorem has_of_drops {name : String} {before after : Inventory} {events : List Event}
    {result : Except UpdateError DropReport} (h : Drops look name before events result after)
    (hNone : ∀ table ∈ tablesOf name, before.has table = false) (table : String) :
    after.has table = before.has table := by
  have hDropped {tables : List String} (hTables : ∀ other ∈ tables, other ∈ tablesOf name) :
      (before.drop tables).has table = before.has table := by
    rw [has_drop]
    by_cases hMem : table ∈ tables
    · simp [hNone table (hTables table hMem)]
    · simp [hMem]
  cases h with
  | finished | notCleared => rw [has_clear, hDropped fun _ h => h]
  | notDropped hDone _ => exact hDropped fun other hMem => hDone ▸ List.mem_append_left _ hMem

end Inventory

namespace Updater

theorem issued_of_drops {name : String} {before after : Inventory} {events : List Event}
    {result : Except UpdateError DropReport} (h : Drops look name before events result after) :
    issued events <+: dropPlan look name before := by
  cases h with
  | finished hAll => exact hAll ▸ List.prefix_rfl
  | notDropped _ hSome => exact hSome.trans (List.prefix_append _ _)
  | notCleared _ hSome => exact hSome

/-- What a call says when it was successful, and what it has left: the two tables are gone, the
others are still there, and the entries were deleted from the sequence tables. -/
structure Finished (name : String) (before after : Inventory) (events : List Event)
    (report : DropReport) : Prop where
  dropped : report.dropped = [name, validityTable name].filter before.has
  tables : ∀ table, after.has table =
    (before.has table && decide (table ∉ [name, validityTable name]))
  cleared : report.clearedSequenceTables =
    [localSequenceTable, globalSequenceTable].filter after.has
  deleted : ∀ table ∈ report.clearedSequenceTables,
    (∃ lines, .statement (Statement.deleteSequenceEntries table name) (.ok lines) ∈ events) ∧
      ∃ names, before table = some names ∧ after table = some (names.filter (· != name))

/-- What a call has left that failed: no entry was deleted unless both tables are gone. -/
structure Stopped (name : String) (before after : Inventory) (events : List Event) : Prop where
  ordered : (∃ table ∈ [name, validityTable name], after.has table = true) →
    (∀ table, Statement.deleteSequenceEntries table name ∉ issued events) ∧
      ∀ table, after table = none ∨ after table = before table

theorem finished_of_drops {name : String} {before after : Inventory} {events : List Event}
    {report : DropReport} (h : Drops look name before events (.ok report) after) :
    Finished name before after events report := by
  cases h with
  | finished hIssued hEvents =>
    refine ⟨rfl, fun table => ?_, ?_, fun table hMem => ?_⟩
    · rw [Inventory.has_clear, Inventory.has_drop]
      rfl
    · exact List.filter_congr fun table _ => (Inventory.has_clear _ name _ table).symm
    · obtain ⟨hSequence, hHas⟩ := List.mem_filter.mp hMem
      refine ⟨hEvents table hSequence hHas, ?_⟩
      obtain ⟨names, hNames⟩ := Option.isSome_iff_exists.mp hHas
      have hKept : table ∉ tablesOf name := by
        intro hDropped
        simp [Inventory.drop, hDropped] at hNames
      have hBefore : before table = some names := by
        simpa [Inventory.drop, hKept] using hNames
      exact ⟨names, hBefore, by simp [Inventory.clear, hSequence, hNames]⟩

theorem stopped_of_drops
    (hLook : ∀ table other name, look table ≠ Statement.deleteSequenceEntries other name)
    {name : String} {before after : Inventory} {events : List Event} {e : UpdateError}
    (h : Drops look name before events (.error e) after) :
    Stopped name before after events := by
  refine ⟨fun ⟨left, hLeft, hHas⟩ => ?_⟩
  cases h with
  | notDropped hDone hIssued =>
    constructor
    · intro table hDelete
      obtain ⟨other, hProbe⟩ | ⟨other, -, -, hDrop⟩ := mem_plan (hIssued.subset hDelete)
      · exact hLook other table name hProbe.symm
      · exact Statement.dropTable_ne_delete other table name hDrop.symm
    · intro table
      rw [Inventory.drop]
      split
      · exact .inl rfl
      · exact .inr rfl
  | notCleared hDone _ =>
    have hGone : (before.drop (tablesOf name)).has left = false := by
      have hMem : left ∈ tablesOf name := hLeft
      simp [Inventory.has_drop, hMem]
    rw [Inventory.has_clear, hGone] at hHas
    cases hHas

/-- A call that finds neither of the two tables drops nothing, and keeps all other tables. -/
theorem dropTable_idle {updater : Updater σ} {inventory : σ → Inventory}
    (hMode : updater.backend.mode = .durable)
    (h : Inventoried updater.backend.services inventory look) {name : String} {session : Session σ}
    (hNone : ∀ table ∈ tablesOf name, (inventory session.world).has table = false) :
    let ended := updater.dropTable name session
    (∀ table, Statement.dropTable table ∉
        statements (updater.calls [] [.dropTable name] session)) ∧
      (∀ table, (inventory ended.2.world).has table = (inventory session.world).has table) ∧
      ∀ report, ended.1 = .ok report → report.dropped = [] := by
  intro ended
  obtain ⟨events, hRealizes, hDrops⟩ := dropTable_calls hMode h name session
  refine ⟨fun table hSent => ?_, Inventory.has_of_drops hDrops hNone, fun report hReport => ?_⟩
  · obtain ⟨answer, hCall⟩ := mem_statements.mp hSent
    obtain ⟨outcome, hEvent⟩ := hRealizes.statement_of_execute hCall
    have hIssued : Statement.dropTable table ∈ issued events :=
      List.mem_filterMap.mpr ⟨_, hEvent, rfl⟩
    obtain hDrop | hClear := List.mem_append.mp ((issued_of_drops hDrops).subset hIssued)
    · obtain ⟨other, hProbe⟩ | ⟨other, hMem, hHas, -⟩ := mem_plan hDrop
      · exact h.look_ne_dropTable other table hProbe.symm
      · rw [hNone other hMem] at hHas
        cases hHas
    · obtain ⟨other, hProbe⟩ | ⟨other, -, -, hDelete⟩ := mem_plan hClear
      · exact h.look_ne_dropTable other table hProbe.symm
      · exact Statement.dropTable_ne_delete table other name hDelete
  · rw [hReport] at hDrops
    rw [(finished_of_drops hDrops).dropped, List.filter_eq_nil_iff]
    intro table hMem
    simpa using hNone table hMem

/-- A call without failures finishes, from any inventory. -/
theorem dropTable_finishes {updater : Updater σ} {inventory : σ → Inventory}
    (hMode : updater.backend.mode = .durable)
    (h : Faultless updater.backend.services inventory look) (name : String) (session : Session σ) :
    let ended := updater.dropTable name session
    (∃ report, ended.1 = .ok report) ∧
      inventory ended.2.world =
        ((inventory session.world).drop (tablesOf name)).clear name sequenceTables ∧
      ∃ events, Realizes updater.backend.attempts events
          (updater.calls [] [.dropTable name] session) ∧
        issued events = dropPlan look name (inventory session.world) := by
  intro ended
  obtain ⟨report, hReport⟩ := dropTable_faultless hMode h name session
  obtain ⟨events, hRealizes, hDrops⟩ :=
    dropTable_calls hMode h.toInventoried name session
  refine ⟨⟨report, hReport⟩, ?_⟩
  have hResult : ended.1 = .ok report := hReport
  rw [hReport] at hDrops
  change Drops look name _ events _ (inventory ended.2.world) at hDrops
  generalize inventory ended.2.world = after at hDrops ⊢
  cases hDrops with
  | finished hIssued _ => exact ⟨rfl, events, hRealizes, hIssued⟩

/-- Dropping a table can be repeated. After a call that was successful another one drops nothing
and keeps all tables. A call that failed has issued the first statements of a call without failures,
and after it such a call leaves what it would have left at first. -/
theorem dropTable_resumable {updater : Updater σ} {inventory : σ → Inventory}
    (hMode : updater.backend.mode = .durable)
    (h : Inventoried updater.backend.services inventory look) (name : String)
    (session : Session σ) :
    let ended := updater.dropTable name session
    let before := inventory session.world
    let after := inventory ended.2.world
    ∃ events, Realizes updater.backend.attempts events
        (updater.calls [] [.dropTable name] session) ∧
      match ended.1 with
      | .ok report => Finished name before after events report ∧
        ∀ (τ : Type) (later : Updater τ) (view : τ → Inventory) (again : Session τ),
          later.backend.mode = .durable → Inventoried later.backend.services view look →
          view again.world = after →
          let repeated := later.dropTable name again
          (∀ table, Statement.dropTable table ∉
            statements (later.calls [] [.dropTable name] again)) ∧
          (∀ table, (view repeated.2.world).has table = after.has table) ∧
          ∀ report, repeated.1 = .ok report → report.dropped = []
      | .error _ => Stopped name before after events ∧
        ∀ (τ : Type) (later : Updater τ) (view : τ → Inventory) (first again : Session τ),
          later.backend.mode = .durable → Faultless later.backend.services view look →
          view first.world = before → view again.world = after →
          (∃ whole, Realizes later.backend.attempts whole
              (later.calls [] [.dropTable name] first) ∧ issued events <+: issued whole) ∧
          (∃ report, (later.dropTable name again).1 = .ok report) ∧
          view (later.dropTable name again).2.world =
            view (later.dropTable name first).2.world := by
  intro ended before after
  obtain ⟨events, hRealizes, hDrops⟩ := dropTable_calls hMode h name session
  change Drops look name before events ended.1 after at hDrops
  refine ⟨events, hRealizes, ?_⟩
  cases hResult : ended.1 with
  | ok report =>
    rw [hResult] at hDrops
    have hFinished := finished_of_drops hDrops
    refine ⟨hFinished, fun τ later view again hLater hView hAgain => ?_⟩
    rw [← hAgain]
    refine dropTable_idle hLater hView fun table hMem => ?_
    rw [hAgain, hFinished.tables]
    have hGone : table ∈ [name, validityTable name] := hMem
    simp [hGone]
  | error e =>
    rw [hResult] at hDrops
    have hStopped := stopped_of_drops h.look_ne_delete hDrops
    refine ⟨hStopped, fun τ later view first again hLater hView hFirst hAgain => ?_⟩
    obtain ⟨-, hWhole, whole, hRealizesWhole, hIssued⟩ :=
      dropTable_finishes hLater hView name first
    obtain ⟨hReport, hRest, -⟩ := dropTable_finishes hLater hView name again
    refine ⟨⟨whole, hRealizesWhole, ?_⟩, hReport, ?_⟩
    · rw [hIssued, hFirst]
      exact issued_of_drops hDrops
    · rw [hRest, hWhole, hFirst, hAgain]
      exact Inventory.completes hDrops

/-- A table with its table of validity rows, and numbers that were given to it and to another. -/
def demoInventory : Inventory := fun table =>
  if table = "DEMO" ∨ table = "DEMOVLD" then some []
  else if table = localSequenceTable then some ["DEMO", "OTHER"]
  else none

/-- The connection is lost whenever the second of the two tables is to be dropped. -/
theorem dropTable_resumable_interrupted :
    let updater : Updater Outages := ⟨{}, Outages.services, 3, .durable⟩
    let later : Updater Inventory := ⟨{}, Inventory.services, 3, .durable⟩
    let session : Session Outages :=
      { world := ⟨demoInventory, [none, some .lost, some .lost, some .lost]⟩ }
    let first : Session Inventory := { world := demoInventory }
    ∃ left, left = (updater.dropTable "DEMO" session).2.world.inventory ∧
      (left "DEMO" = none ∧ left "DEMOVLD" = some [] ∧
        left localSequenceTable = some ["DEMO", "OTHER"]) ∧
      (updater.dropTable "DEMO" session).1 =
        .error (.transientExhausted 3 "DROP TABLE DEMOVLD;") ∧
      (∃ report, (later.dropTable "DEMO" { world := left }).1 = .ok report) ∧
      (later.dropTable "DEMO" { world := left }).2.world =
        (later.dropTable "DEMO" first).2.world ∧
      (later.dropTable "DEMO" first).2.world localSequenceTable = some ["OTHER"] := by
  intro updater later session first
  have hFailed : (updater.dropTable "DEMO" session).1 =
      .error (.transientExhausted 3 "DROP TABLE DEMOVLD;") := by decide +kernel
  have hWhole : (later.dropTable "DEMO" first).2.world localSequenceTable = some ["OTHER"] := by
    decide +kernel
  obtain ⟨left, hLeft, hTables⟩ : ∃ left,
      left = (updater.dropTable "DEMO" session).2.world.inventory ∧ left "DEMO" = none ∧
        left "DEMOVLD" = some [] ∧ left localSequenceTable = some ["DEMO", "OTHER"] :=
    ⟨_, rfl, by decide +kernel⟩
  obtain ⟨events, hResult⟩ := @dropTable_resumable _ describe updater Outages.inventory rfl
    Outages.services_inventoried "DEMO" session
  -- Only now that the result is known the cases of the theorem can be told apart cheaply.
  rw [hFailed, ← hLeft] at hResult
  obtain ⟨-, -, hLater⟩ := hResult
  obtain ⟨-, hReport, hSame⟩ := hLater Inventory later id first { world := left } rfl
    Inventory.services_faultless rfl rfl
  exact ⟨left, hLeft, hTables, hFailed, hReport, hSame, hWhole⟩

end Updater

end ValidityTables
