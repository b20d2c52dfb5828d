import ValidityTables.Proofs.Answers
import ValidityTables.Proofs.Operations
import ValidityTables.Proofs.Store

/-! # Tables that are looked for before they are changed

Maintenance acts on those of some tables that exist: each one is looked for, and if it is there a
statement is sent about it. Where probes tell the truth and a statement takes full effect or none,
what was done is given by the tables that were reached before the first failure.
-/

namespace ValidityTables

variable {σ τ : Type}

/-- The tables that exist, each with the names of tables that stand in its entries. -/
abbrev Inventory : Type := String → Option (List String)

namespace Inventory

variable (inventory : Inventory)

def has (table : String) : Bool := (inventory table).isSome

def drop (tables : List String) : Inventory := fun table =>
  if table ∈ tables then none else inventory table

/-- The entries of a name are deleted from tables. -/
def clear (name : String) (tables : List String) : Inventory := fun table =>
  if table ∈ tables then (inventory table).map fun names => names.filter (· != name)
  else inventory table

theorem has_drop (tables : List String) (table : String) :
    (inventory.drop tables).has table = (inventory.has table && decide (table ∉ tables)) := by
  by_cases h : table ∈ tables <;> simp [has, drop, h]

@[simp] theorem has_clear (name : String) (tables : List String) (table : String) :
    (inventory.clear name tables).has table = inventory.has table := by
  by_cases h : table ∈ tables <;> simp [has, clear, h]

theorem drop_drop {some all : List String} (h : ∀ table ∈ some, table ∈ all) :
    (inventory.drop some).drop all = inventory.drop all := by
  funext table
  by_cases hAll : table ∈ all
  · simp [drop, hAll]
  · have hSome : table ∉ some := fun hMem => hAll (h table hMem)
    simp [drop, hAll, hSome]

theorem clear_clear {some all : List String} (h : ∀ table ∈ some, table ∈ all) (name : String) :
    (inventory.clear name some).clear name all = inventory.clear name all := by
  funext table
  by_cases hAll : table ∈ all
  · by_cases hSome : table ∈ some
    · simp [clear, hAll, hSome, Function.comp_def, List.filter_filter]
    · simp [clear, hAll, hSome]
  · have hSome : table ∉ some := fun hMem => hAll (h table hMem)
    simp [clear, hAll, hSome]

/-- What was dropped stays away when entries are deleted. -/
theorem drop_clear_drop (dropped cleared : List String) (name : String) :
    ((inventory.drop dropped).clear name cleared).drop dropped =
      (inventory.drop dropped).clear name cleared := by
  funext table
  by_cases h : table ∈ dropped
  · by_cases hCleared : table ∈ cleared <;> simp [drop, clear, h, hCleared]
  · simp [drop, clear, h]

end Inventory

/-- A change that is made to tables one by one: it leaves missing tables alone, and the other tables
exist or not as before. -/
structure Steps (change : List String → Inventory → Inventory) : Prop where
  nil : ∀ inventory, change [] inventory = inventory
  cons : ∀ table rest inventory,
    change (table :: rest) inventory = change rest (change [table] inventory)
  missing : ∀ {table inventory}, inventory table = none → change [table] inventory = inventory
  kept : ∀ {table other : String} inventory, other ≠ table →
    (change [table] inventory).has other = inventory.has other

theorem steps_drop : Steps fun tables inventory => inventory.drop tables where
  nil inventory := by
    funext table
    simp [Inventory.drop]
  cons table rest inventory := by
    funext other
    by_cases hOther : other = table <;> by_cases hRest : other ∈ rest <;>
      simp [Inventory.drop, hOther, hRest]
  missing {table inventory} hNone := by
    funext other
    by_cases hOther : other = table
    · simp [Inventory.drop, hOther, hNone]
    · simp [Inventory.drop, hOther]
  kept inventory hOther := by simp [Inventory.has_drop, hOther]

theorem steps_clear (name : String) :
    Steps fun tables inventory => inventory.clear name tables where
  nil inventory := by
    funext table
    simp [Inventory.clear]
  cons table rest inventory := by
    funext other
    by_cases hOther : other = table <;> by_cases hRest : other ∈ rest <;>
      simp [Inventory.clear, hOther, hRest, Function.comp_def, List.filter_filter]
  missing {table inventory} hNone := by
    funext other
    by_cases hOther : other = table
    · simp [Inventory.clear, hOther, hNone]
    · simp [Inventory.clear, hOther]
  kept inventory _ := by simp

/-- Services over an inventory, with the statement that looks for a table. A probe that is answered
is answered truthfully, and a statement that drops a table or deletes entries takes effect if it is
answered with success, and has no effect otherwise. -/
structure Inventoried (services : Services σ) (inventory : σ → Inventory)
    (look : String → String) : Prop where
  probe : ∀ table world, services.probe table world = some (look table)
  look_ne_dropTable : ∀ table other, look table ≠ Statement.dropTable other
  look_ne_delete : ∀ table other name, look table ≠ Statement.deleteSequenceEntries other name
  described : ∀ {table world answer after},
    services.execute (look table) world = (answer, after) →
    inventory after = inventory world ∧
      (∀ reply, answer = .ok reply → reply.connectionLost = false →
        reply.succeeded = (inventory world).has table) ∧
      ∀ e, answer = .error e → e.isRejection = true → (inventory world).has table = false
  dropped : ∀ table, Effective services inventory (Statement.dropTable table)
    fun before after => after = before.drop [table]
  cleared : ∀ name, ∀ table ∈ [localSequenceTable, globalSequenceTable],
    Effective services inventory (Statement.deleteSequenceEntries table name)
      fun before after => after = before.clear name [table]

/-- The services never fail, but that a probe finds no table. -/
structure Faultless (services : Services σ) (inventory : σ → Inventory)
    (look : String → String) : Prop extends Inventoried services inventory look where
  told : ∀ table world, ∃ reply after,
    services.execute (look table) world = (.ok reply, after) ∧ reply.connectionLost = false
  drops : ∀ table world, (inventory world).has table = true → ∃ reply after,
    services.execute (Statement.dropTable table) world = (.ok reply, after) ∧
      reply.succeeded = true
  clears : ∀ name, ∀ table ∈ [localSequenceTable, globalSequenceTable], ∀ world,
    (inventory world).has table = true → ∃ reply after,
      services.execute (Statement.deleteSequenceEntries table name) world = (.ok reply, after) ∧
        reply.succeeded = true

section Single

variable {backend : Backend σ} {inventory : σ → Inventory} {look : String → String}

theorem Effective.recorded {α : Type} {services : Services σ} {view : σ → α} {sql : String}
    {effect : α → α → Prop} (h : Effective services view sql effect) :
    Effective services.recorded (fun recorded => view recorded.world) sql effect where
  succeeded {world reply after} hAnswer hSucceeded := by
    cases hPlain : services.execute sql world.world
    simp only [Services.recorded, hPlain] at hAnswer
    cases hAnswer
    exact h.succeeded hPlain hSucceeded
  failed {world answer after} hAnswer hFailed := by
    cases hPlain : services.execute sql world.world
    simp only [Services.recorded, hPlain] at hAnswer
    cases hAnswer
    exact h.failed hPlain hFailed

theorem Inventoried.recorded {services : Services σ} (h : Inventoried services inventory look) :
    Inventoried services.recorded (fun recorded => inventory recorded.world) look where
  probe table recorded := h.probe table recorded.world
  look_ne_dropTable := h.look_ne_dropTable
  look_ne_delete := h.look_ne_delete
  described {table world answer after} hAnswer := by
    cases hPlain : services.execute (look table) world.world
    simp only [Services.recorded, hPlain] at hAnswer
    cases hAnswer
    exact h.described hPlain
  dropped table := (h.dropped table).recorded
  cleared name table hMem := (h.cleared name table hMem).recorded

/-- What a probe comes to is true of a table that exists or does not. -/
def Truthful (known : Bool) : Except UpdateError (List String) → Prop
  | .ok _ => known = true
  | .error e => e.isRejection = true → known = false

theorem Inventoried.told (h : Inventoried backend.services inventory look) {table : String}
    {left : Nat} {answers : List (Except UpdateError Reply)}
    {outcome : Except UpdateError (List String)}
    {world after : σ}
    (hPath : Path backend.services world (answers.map (.execute (look table))) after)
    (hResolves : Resolves backend.attempts (look table) left answers outcome) :
    inventory after = inventory world ∧ Truthful ((inventory world).has table) outcome := by
  induction hResolves generalizing world with
  | exhausted =>
    cases hPath
    exact ⟨rfl, nofun⟩
  | unreachable e =>
    obtain _ | ⟨hAnswer, hRest⟩ := hPath
    cases hRest
    obtain ⟨hSame, -, hError⟩ := h.described hAnswer
    exact ⟨hSame, hError e rfl⟩
  | lost hLost _ ih =>
    obtain _ | ⟨hAnswer, hRest⟩ := hPath
    obtain ⟨hSame, -⟩ := h.described hAnswer
    have hLater := ih hRest
    rw [hSame] at hLater
    exact hLater
  | succeeded hSucceeded =>
    obtain _ | ⟨hAnswer, hRest⟩ := hPath
    cases hRest
    obtain ⟨hSame, hTrue, -⟩ := h.described hAnswer
    have hKept := Reply.succeeded_kept hSucceeded
    exact ⟨hSame, (hTrue _ rfl hKept).symm.trans hSucceeded⟩
  | rejected hKept hFailed =>
    obtain _ | ⟨hAnswer, hRest⟩ := hPath
    cases hRest
    obtain ⟨hSame, hTrue, -⟩ := h.described hAnswer
    exact ⟨hSame, fun _ => (hTrue _ rfl hKept).symm.trans hFailed⟩

theorem Inventoried.tableExists_traces (h : Inventoried backend.services inventory look)
    {table : String} {found : Except UpdateError Bool} {session after : Session σ}
    (hFound : backend.tableExists table session = (found, after)) :
    ∃ outcome, backend.Traces session.world [.statement (look table) outcome] after.world ∧
      inventory after.world = inventory session.world ∧
      ∀ known, found = .ok known → known = (inventory session.world).has table := by
  obtain ⟨events, hProbes, hTraces⟩ := Backend.tableExists_traces hFound
  rw [h.probe] at hProbes
  have hTold {outcome : Except UpdateError (List String)}
      (hTraces : backend.Traces session.world [.statement (look table) outcome] after.world) :
      inventory after.world = inventory session.world ∧
        Truthful ((inventory session.world).has table) outcome := by
    obtain ⟨_, hPath, hResolves⟩ := hTraces.answers
    exact h.told hPath hResolves
  cases hProbes with
  | present lines =>
    obtain ⟨hSame, hKnown⟩ := hTold hTraces
    refine ⟨_, hTraces, hSame, ?_⟩
    rintro _ ⟨⟩
    exact hKnown.symm
  | missing hRejection =>
    obtain ⟨hSame, hMissing⟩ := hTold hTraces
    refine ⟨_, hTraces, hSame, ?_⟩
    rintro _ ⟨⟩
    exact (hMissing hRejection).symm
  | failed hFatal => exact ⟨_, hTraces, (hTold hTraces).1, nofun⟩

end Single

def Event.statement? : Event → Option String
  | .statement sql _ => some sql
  | .request _ _ _ | .clock _ => none

/-- The statements of a run, each one once, however often it was sent. -/
def issued (events : List Event) : List String := events.filterMap Event.statement?

@[simp] theorem issued_append (before later : List Event) :
    issued (before ++ later) = issued before ++ issued later := List.filterMap_append

/-- What is issued to act on those of the tables that exist. -/
def plan (look act : String → String) (tables : List String) (inventory : Inventory) :
    List String :=
  tables.flatMap fun table => look table :: if inventory.has table then [act table] else []

theorem plan_congr {look act : String → String} {tables : List String}
    {first second : Inventory} (h : ∀ table ∈ tables, first.has table = second.has table) :
    plan look act tables first = plan look act tables second := by
  unfold plan
  exact List.flatMap_congr fun table hMem => by rw [h table hMem]

theorem mem_plan {look act : String → String} {tables : List String} {inventory : Inventory}
    {sql : String} (h : sql ∈ plan look act tables inventory) :
    (∃ table, sql = look table) ∨
      ∃ table ∈ tables, inventory.has table = true ∧ sql = act table := by
  obtain ⟨table, hMem, hSql⟩ := List.mem_flatMap.mp h
  obtain hProbe | hAct := List.mem_cons.mp hSql
  · exact .inl ⟨table, hProbe⟩
  · cases hHas : inventory.has table with
    | false => simp [hHas] at hAct
    | true => exact .inr ⟨table, hMem, hHas, by simpa [hHas] using hAct⟩

/-- Acting on those of the tables that exist, up to the first failure. -/
inductive Completes (look act : String → String) (change : List String → Inventory → Inventory)
    (tables : List String) (before : Inventory) :
    List Event → Except UpdateError (List String) → Inventory → Prop
  | finished {events : List Event} : issued events = plan look act tables before →
      (∀ table ∈ tables, before.has table = true →
        ∃ lines, .statement (act table) (.ok lines) ∈ events) →
      Completes look act change tables before events (.ok (tables.filter before.has))
        (change tables before)
  | stopped {events : List Event} {e : UpdateError} {done rest : List String} :
      tables = done ++ rest → issued events <+: plan look act tables before →
      Completes look act change tables before events (.error e) (change done before)

section Existing

variable {look act : String → String} {change : List String → Inventory → Inventory}

theorem Completes.cons (hSteps : Steps change) {table : String} {rest : List String}
    (hTable : table ∉ rest) {before after : Inventory} {first events : List Event}
    {result : Except UpdateError (List String)}
    (hIssued : issued first =
      look table :: if before.has table then [act table] else [])
    (hActed : before.has table = true → ∃ lines, .statement (act table) (.ok lines) ∈ first)
    (h : Completes look act change rest (change [table] before) events result after) :
    Completes look act change (table :: rest) before (first ++ events)
      (result.map fun acted => if before.has table then table :: acted else acted) after := by
  -- No table comes twice, so acting on the first one does not show in what the others look like.
  have hKept : ∀ other ∈ rest, (change [table] before).has other = before.has other :=
    fun other hMem => hSteps.kept before fun hSame => hTable (hSame ▸ hMem)
  have hPlan : plan look act (table :: rest) before =
      issued first ++ plan look act rest (change [table] before) := by
    rw [plan_congr hKept, hIssued]
    rfl
  cases h with
  | finished hRest hDone =>
    have hFilter : rest.filter (change [table] before).has = rest.filter before.has :=
      List.filter_congr hKept
    have hResult : (table :: rest).filter before.has =
        if before.has table then table :: rest.filter before.has else rest.filter before.has := by
      cases hHas : before.has table <;> simp [hHas]
    rw [← hSteps.cons, hFilter, Except.map, ← hResult]
    refine .finished ?_ ?_
    · rw [issued_append, hRest, hPlan]
    · intro other hMem hOther
      obtain rfl | hLater := List.mem_cons.mp hMem
      · obtain ⟨lines, hFirst⟩ := hActed hOther
        exact ⟨lines, List.mem_append_left _ hFirst⟩
      · obtain ⟨lines, hEvent⟩ := hDone other hLater ((hKept other hLater).trans hOther)
        exact ⟨lines, List.mem_append_right _ hEvent⟩
  | stopped hRest hIssuedRest =>
    rw [← hSteps.cons]
    refine .stopped (by rw [hRest, List.cons_append]) ?_
    rw [issued_append, hPlan]
    exact List.prefix_append_right_inj _ |>.mpr hIssuedRest

theorem Completes.unchanged (hSteps : Steps change) {tables : List String} {before : Inventory}
    {events : List Event} (e : UpdateError)
    (hIssued : issued events <+: plan look act tables before) :
    Completes look act change tables before events (.error e) before := by
  have hNone := @Completes.stopped look act change _ _ _ e [] tables rfl hIssued
  rwa [hSteps.nil] at hNone

/-- A table that is missing is passed over, which changes as little as acting on it would. -/
theorem Completes.missing (hSteps : Steps change) {table : String} {rest : List String}
    (hTable : table ∉ rest) {before after : Inventory} (hMissing : before.has table = false)
    (outcome : Except UpdateError (List String)) {events : List Event}
    {result : Except UpdateError (List String)}
    (h : Completes look act change rest before events result after) :
    Completes look act change (table :: rest) before
      ([.statement (look table) outcome] ++ events) result after := by
  have hNone : before table = none := by simpa [Inventory.has] using hMissing
  have hIssued : issued [.statement (look table) outcome] =
      look table :: if before.has table then [act table] else [] := by
    rw [hMissing]
    rfl
  have hResult : (result.map fun acted => if before.has table then table :: acted else acted) =
      result := by
    cases result <;> simp [hMissing, Except.map]
  rw [← hSteps.missing hNone] at h
  have hAll := Completes.cons hSteps hTable hIssued (by simp [hMissing]) h
  rwa [hResult] at hAll

theorem Completes.acted (hSteps : Steps change) {table : String} {rest : List String}
    (hTable : table ∉ rest) {before after : Inventory} (hHas : before.has table = true)
    (outcome : Except UpdateError (List String)) (lines : List String) {events : List Event}
    {result : Except UpdateError (List String)}
    (h : Completes look act change rest (change [table] before) events result after) :
    Completes look act change (table :: rest) before
      ([.statement (look table) outcome, .statement (act table) (.ok lines)] ++ events)
      (result.map (table :: ·)) after := by
  have hIssued : issued [.statement (look table) outcome, .statement (act table) (.ok lines)] =
      look table :: if before.has table then [act table] else [] := by
    rw [hHas]
    rfl
  have hAll := Completes.cons hSteps hTable hIssued (fun _ => ⟨lines, by simp⟩) h
  simpa only [hHas, if_true] using hAll

variable {backend : Backend σ} {inventory : σ → Inventory}

/-- Acts on those of the given tables that exist. -/
def onExisting (backend : Backend σ) (act : String → String) :
    List String → Action σ (List String)
  | [] => return []
  | table :: rest => do
    if ← backend.tableExists table then
      discard (backend.query (act table))
      return table :: (← onExisting backend act rest)
    else onExisting backend act rest

theorem onExisting_present {table : String} {rest : List String} {session middle : Session σ}
    (hFound : backend.tableExists table session = (.ok true, middle)) :
    onExisting backend act (table :: rest) session =
      match backend.query (act table) middle with
      | (.error e, acted) => (.error e, acted)
      | (.ok _, acted) => ((onExisting backend act rest acted).1.map (table :: ·),
          (onExisting backend act rest acted).2) := by
  simp only [onExisting, Action.bind_apply, hFound, if_true, Action.discard_apply]
  rcases backend.query (act table) middle with ⟨_ | _, acted⟩
  · rfl
  · simp only [Except.map]
    rcases onExisting backend act rest acted with ⟨_ | _, _⟩ <;> rfl

theorem onExisting_traces (h : Inventoried backend.services inventory look) (hSteps : Steps change)
    {tables : List String} (hTables : tables.Nodup)
    (hActs : ∀ table ∈ tables, Effective backend.services inventory (act table)
      fun before after => after = change [table] before)
    {session after : Session σ} {result : Except UpdateError (List String)}
    (hRan : onExisting backend act tables session = (result, after)) :
    ∃ events, backend.Traces session.world events after.world ∧
      Completes look act change tables (inventory session.world) events result
        (inventory after.world) := by
  induction tables generalizing session after result with
  | nil =>
    cases hRan
    refine ⟨[], .nil _, ?_⟩
    have hNothing := @Completes.finished look act change [] (inventory session.world) [] rfl nofun
    rwa [hSteps.nil] at hNothing
  | cons table rest ih =>
    obtain ⟨hTable, hRest⟩ := List.nodup_cons.mp hTables
    have hActsRest := fun other hMem => hActs other (List.mem_cons_of_mem table hMem)
    rcases hFound : backend.tableExists table session with ⟨found, middle⟩
    obtain ⟨outcome, hProbe, hSame, hKnown⟩ := h.tableExists_traces hFound
    rcases found with e | _ | _
    · rw [onExisting, Action.bind_apply, hFound] at hRan
      cases hRan
      rw [hSame]
      exact ⟨_, hProbe, .unchanged hSteps e ⟨_, rfl⟩⟩
    · rw [onExisting, Action.bind_apply, hFound] at hRan
      obtain ⟨events, hTraces, hCompletes⟩ := ih hRest hActsRest hRan
      rw [hSame] at hCompletes
      exact ⟨_, hProbe.append hTraces,
        hCompletes.missing hSteps hTable (hKnown false rfl).symm outcome⟩
    · have hHas := (hKnown true rfl).symm
      rcases hQuery : backend.query (act table) middle with ⟨answer, acted⟩
      rw [onExisting_present hFound, hQuery] at hRan
      have hAct := backend.query_traces hQuery
      have hEffect := (hActs table List.mem_cons_self).traced hAct
      have hBoth := hProbe.append hAct
      cases answer with
      | error e =>
        cases hRan
        have hUnchanged : inventory after.world = inventory middle.world := hEffect
        rw [hUnchanged, hSame]
        refine ⟨_, hBoth, .unchanged hSteps e ⟨plan look act rest (inventory session.world), ?_⟩⟩
        simp [plan, hHas, issued, Event.statement?]
      | ok lines =>
        obtain ⟨rfl, rfl⟩ := Prod.mk.inj hRan
        have hChanged : inventory acted.world = change [table] (inventory middle.world) := hEffect
        obtain ⟨events, hTraces, hCompletes⟩ := ih hRest hActsRest rfl
        rw [hChanged, hSame] at hCompletes
        exact ⟨_, hBoth.append hTraces, hCompletes.acted hSteps hTable hHas outcome lines⟩

end Existing

section Faultless

variable {backend : Backend σ} {inventory : σ → Inventory} {look : String → String}

theorem Backend.query_succeeds {sql : String} {session : Session σ} {reply : Reply} {world : σ}
    (hAnswer : backend.services.execute sql session.world = (.ok reply, world))
    (hSucceeded : reply.succeeded = true) :
    backend.query sql session = (.ok reply.lines,
      { session with world, results := reply.lines, executed := session.executed + 1 }) := by
  have hKept : ∀ other, (Except.ok reply : Except UpdateError Reply) = .ok other →
      other.connectionLost = false := by
    rintro _ ⟨⟩
    exact Reply.succeeded_kept hSucceeded
  rw [Backend.query_answered hAnswer hKept]
  simp only [Session.answered, hSucceeded, if_true]

theorem Faultless.tableExists (h : Faultless backend.services inventory look) (table : String)
    (session : Session σ) :
    ∃ after, backend.tableExists table session =
        (.ok ((inventory session.world).has table), after) ∧
      inventory after.world = inventory session.world := by
  obtain ⟨reply, world, hAnswer, hKept⟩ := h.told table session.world
  obtain ⟨hSame, hTrue, -⟩ := h.described hAnswer
  have hHas := hTrue reply rfl hKept
  have hQuery : backend.query (look table) session =
      session.answered (look table) world (.ok reply) := by
    refine Backend.query_answered hAnswer ?_
    rintro _ ⟨⟩
    exact hKept
  unfold Backend.tableExists
  rw [h.probe]
  simp only [hQuery, Session.answered, hHas]
  cases (inventory session.world).has table with
  | true => exact ⟨_, rfl, hSame⟩
  | false => exact ⟨_, rfl, hSame⟩

theorem Faultless.onExisting (h : Faultless backend.services inventory look) {act : String → String}
    {tables : List String}
    (hActs : ∀ table ∈ tables, ∀ world, (inventory world).has table = true → ∃ reply after,
      backend.services.execute (act table) world = (.ok reply, after) ∧ reply.succeeded = true)
    (session : Session σ) :
    ∃ acted after, ValidityTables.onExisting backend act tables session = (.ok acted, after) := by
  induction tables generalizing session with
  | nil => exact ⟨[], session, rfl⟩
  | cons table rest ih =>
    have hRest := ih fun other hMem => hActs other (List.mem_cons_of_mem _ hMem)
    obtain ⟨middle, hFound, hSame⟩ := h.tableExists table session
    rw [ValidityTables.onExisting, Action.bind_apply, hFound]
    cases hHas : (inventory session.world).has table with
    | false => exact hRest middle
    | true =>
      obtain ⟨reply, world, hAnswer, hSucceeded⟩ :=
        hActs table List.mem_cons_self middle.world (by rw [hSame, hHas])
      have hQuery := Backend.query_succeeds hAnswer hSucceeded
      obtain ⟨acted, after, hMore⟩ := hRest
        { middle with world, results := reply.lines, executed := middle.executed + 1 }
      refine ⟨table :: acted, after, ?_⟩
      simp only [if_true, Action.bind_apply, Action.discard_apply, hQuery, Except.map, hMore]
      rfl

end Faultless

end ValidityTables
