import ValidityTables.Proofs.FileItems
import ValidityTables.Updater

/-! # Two runs in step

Steps of two runs correspond if from related sessions they give the same result and come to related
sessions. It is enough to know this of the calls of two backends, as in `Backend.Matches`: all that
a run is composed of then corresponds, up to whole files. Where the calls of two backends differ
and only their blocks correspond, `UpdateFile.Aligned` still carries this over to files.
-/

namespace ValidityTables

variable {ε τ σ α β : Type}

def Corresponds (R : Session τ → Session σ → Prop) (first : StateM (Session τ) α)
    (second : StateM (Session σ) α) : Prop :=
  ∀ session other, R session other →
    (second other).1 = (first session).1 ∧ R (first session).2 (second other).2

namespace Corresponds

variable {R : Session τ → Session σ → Prop}

theorem pure (a : α) : Corresponds R (pure a) (pure a) := fun _ _ h => ⟨rfl, h⟩

theorem bind {first : StateM (Session τ) α} {second : StateM (Session σ) α}
    {next : α → StateM (Session τ) β} {following : α → StateM (Session σ) β}
    (h : Corresponds R first second) (hNext : ∀ a, Corresponds R (next a) (following a)) :
    Corresponds R (first >>= next) (second >>= following) := by
  intro session other hRelated
  obtain ⟨hResult, hAfter⟩ := h session other hRelated
  rw [Action.state_bind_apply, Action.state_bind_apply, hResult]
  exact hNext _ _ _ hAfter

theorem ok (a : α) :
    Corresponds R (Pure.pure a : ExceptT ε (StateM (Session τ)) α)
      (Pure.pure a : ExceptT ε (StateM (Session σ)) α) :=
  fun _ _ h => ⟨rfl, h⟩

theorem throw (e : ε) :
    Corresponds R (throw e : ExceptT ε (StateM (Session τ)) α)
      (throw e : ExceptT ε (StateM (Session σ)) α) := fun _ _ h => ⟨rfl, h⟩

theorem step {first : ExceptT ε (StateM (Session τ)) α}
    {second : ExceptT ε (StateM (Session σ)) α} {next : α → ExceptT ε (StateM (Session τ)) β}
    {following : α → ExceptT ε (StateM (Session σ)) β} (h : Corresponds R first second)
    (hNext : ∀ a, Corresponds R (next a) (following a)) :
    Corresponds R (first >>= next : ExceptT ε (StateM (Session τ)) β)
      (second >>= following : ExceptT ε (StateM (Session σ)) β) := by
  intro session other hRelated
  obtain ⟨hResult, hAfter⟩ := h session other hRelated
  rw [Action.bind_apply, Action.bind_apply]
  rcases hFirst : first session with ⟨e | a, after⟩ <;>
    rcases hSecond : second other with ⟨result, last⟩ <;>
    rw [hFirst, hSecond] at hAfter hResult <;> cases hResult
  · exact ⟨rfl, hAfter⟩
  · exact hNext a after last hAfter

theorem handle {first : Action τ α} {second : Action σ α} {handle : UpdateError → Action τ α}
    {handling : UpdateError → Action σ α} (h : Corresponds R first second)
    (hHandle : ∀ e, Corresponds R (handle e) (handling e)) :
    Corresponds R (tryCatch first handle : Action τ α) (tryCatch second handling : Action σ α) := by
  intro session other hRelated
  obtain ⟨hResult, hAfter⟩ := h session other hRelated
  rw [Action.tryCatch_apply, Action.tryCatch_apply]
  rcases hFirst : first session with ⟨e | a, after⟩ <;>
    rcases hSecond : second other with ⟨result, last⟩ <;>
    rw [hFirst, hSecond] at hAfter hResult <;> cases hResult
  · exact hHandle e after last hAfter
  · exact ⟨rfl, hAfter⟩

theorem discard {first : Action τ α} {second : Action σ α} (h : Corresponds R first second) :
    Corresponds R (discard first : Action τ Unit) (discard second : Action σ Unit) :=
  h.step fun _ => .ok ()

end Corresponds

/-- The calls of two backends correspond, and so do the counters of their sessions. -/
structure Backend.Matches (R : Session τ → Session σ → Prop) (first : Backend τ)
    (second : Backend σ) : Prop where
  mode : second.mode = first.mode
  probe : ∀ {session other} table, R session other →
    second.services.probe table other.world = first.services.probe table session.world
  query : ∀ sql, Corresponds R (first.query sql) (second.query sql)
  allocate : ∀ table scope, Corresponds R (first.allocate table scope) (second.allocate table scope)
  now : Corresponds R first.now second.now
  counters : ∀ {session other}, R session other → other.counters = session.counters
  recounted : ∀ {session other} counters, R session other →
    R { session with counters } { other with counters }

namespace Block

variable {R : Session τ → Session σ → Prop} {first : Backend τ} {second : Backend σ}

/-- Applications correspond if their three parts do. -/
theorem applyReady_corresponds {settings : BlockSettings} {inserted : String} {header : Header}
    {rows : Rows}
    (hEnsure : Corresponds R (ensureValidityTable first header)
      (ensureValidityTable second header))
    (hAcquire : Corresponds R (first.acquireSeqno header.table settings.scope)
      (second.acquireSeqno header.table settings.scope))
    (hStore : ∀ seqno, Corresponds R
      (store first header.table seqno
        (Statement.insertRows header.table seqno rows.toList settings.maxValuesBytes ++
          [Statement.insertValidityRow header seqno inserted]))
      (store second header.table seqno
        (Statement.insertRows header.table seqno rows.toList settings.maxValuesBytes ++
          [Statement.insertValidityRow header seqno inserted]))) :
    Corresponds R (applyReady first settings inserted header rows)
      (applyReady second settings inserted header rows) := by
  refine .bind hEnsure fun created => ?_
  cases created with
  | error e => exact .pure _
  | ok created =>
    refine .bind hAcquire fun answer => ?_
    cases answer with
    | error e => exact .pure _
    | ok seqno =>
      refine .bind (hStore seqno) fun stored => ?_
      cases stored <;> exact .pure _

theorem applyAt_corresponds {inserted : String} {block : Block}
    (hReady : ∀ header rows, block.stage = .ready header rows →
      Corresponds R (applyReady first block.settings inserted header rows)
        (applyReady second block.settings inserted header rows)) :
    Corresponds R (applyAt first inserted block) (applyAt second inserted block) := by
  unfold applyAt
  cases hStage : block.stage with
  | refused reason => exact .pure _
  | ready header rows =>
    simp only
    split
    · exact .pure _
    · exact (hReady header rows hStage).bind fun _ => .pure _
  | applied header rows seqno => exact .pure _
  | failed header rows seqno => exact .pure _

theorem begin_corresponds {settings : BlockSettings} {line : String}
    (hExists : ∀ header, Header.parse line = .ok header →
      Corresponds R (first.tableExists header.table) (second.tableExists header.table)) :
    Corresponds R (begin first settings line) (begin second settings line) := by
  unfold begin
  cases hParse : Header.parse line with
  | error reason => exact .ok _
  | ok header =>
    refine (hExists header hParse).step fun found => ?_
    cases found with
    | false => exact .ok _
    | true =>
      simp only [Bool.not_true, Bool.false_eq_true, if_false]
      cases header.checkDates line <;> exact .ok _

/-- A block that was begun is refused, or ready with the header that its line holds. -/
theorem begin_stage {backend : Backend σ} {settings : BlockSettings} {line : String}
    {session after : Session σ} {block : Block}
    (h : begin backend settings line session = (.ok block, after)) :
    (∃ reason, block.stage = .refused reason) ∨
      ∃ header, Header.parse line = .ok header ∧ header.checkDates line = .ok () ∧
        block.stage = .ready header {} := by
  unfold begin at h
  cases hParse : Header.parse line with
  | error reason =>
    rw [hParse] at h
    cases h
    exact .inl ⟨reason, rfl⟩
  | ok header =>
    simp only [hParse, Action.bind_apply] at h
    rcases hExists : backend.tableExists header.table session with ⟨_ | found, middle⟩ <;>
      simp only [hExists] at h
    · cases h
    · cases found with
      | false =>
        cases h
        exact .inl ⟨_, rfl⟩
      | true =>
        simp only [Bool.not_true, Bool.false_eq_true, if_false] at h
        cases hDates : header.checkDates line with
        | error reason =>
          rw [hDates] at h
          cases h
          exact .inl ⟨reason, rfl⟩
        | ok _ =>
          rw [hDates] at h
          cases h
          exact .inr ⟨header, rfl, hDates, rfl⟩

theorem applyAt_ready (backend : Backend σ) (settings : BlockSettings) (inserted : String)
    (header : Header) {rows : Rows} (hRows : rows.isEmpty = false) (session : Session σ) :
    applyAt backend inserted { settings, stage := .ready header rows } session =
      (((applyReady backend settings inserted header rows session).1.1,
        { settings, stage := (applyReady backend settings inserted header rows session).1.2 }),
        (applyReady backend settings inserted header rows session).2) := by
  simp only [applyAt, hRows]
  rfl

theorem applyAt_waiting (backend : Backend σ) (settings : BlockSettings) (inserted : String)
    (header : Header) {rows : Rows} (hRows : rows.isEmpty = true) (session : Session σ) :
    applyAt backend inserted { settings, stage := .ready header rows } session =
      ((.error (.block (.empty header.table)), { settings, stage := .ready header rows }),
        session) := by
  simp only [applyAt, hRows, if_true]
  rfl

theorem runAll_corresponds {statements : List String}
    (hQuery : ∀ sql ∈ statements, Corresponds R
      (discard (first.query sql) : Action τ Unit) (discard (second.query sql) : Action σ Unit)) :
    Corresponds R (runAll first statements) (runAll second statements) := by
  induction statements with
  | nil => exact .ok ()
  | cons sql rest ih =>
    exact (hQuery sql (by simp)).step fun _ =>
      ih fun other hMem => hQuery other (List.mem_cons_of_mem _ hMem)

theorem store_corresponds {table : String} {seqno : UInt32} {statements : List String}
    (hQuery : ∀ sql ∈ statements, Corresponds R
      (discard (first.query sql) : Action τ Unit) (discard (second.query sql) : Action σ Unit))
    (hRemove : Corresponds R (first.removeSeqno table seqno) (second.removeSeqno table seqno)) :
    Corresponds R (store first table seqno statements) (store second table seqno statements) :=
  (runAll_corresponds hQuery).handle fun e => hRemove.step fun _ => .throw e

end Block

namespace Backend.Matches

variable {R : Session τ → Session σ → Prop} {first : Backend τ} {second : Backend σ}

theorem queryLeniently (h : Matches R first second) (sql : String) :
    Corresponds R (first.queryLeniently sql) (second.queryLeniently sql) :=
  (h.query sql).discard.handle fun _ => .ok ()

theorem tableExists (h : Matches R first second) (table : String) :
    Corresponds R (first.tableExists table) (second.tableExists table) := by
  intro session other hRelated
  unfold Backend.tableExists
  rw [h.probe table hRelated]
  cases first.services.probe table session.world with
  | none => exact ⟨rfl, hRelated⟩
  | some sql =>
    obtain ⟨hResult, hAfter⟩ := h.query sql session other hRelated
    simp only
    rcases hFirst : first.query sql session with ⟨result, after⟩
    rcases hSecond : second.query sql other with ⟨_, last⟩
    rw [hFirst, hSecond] at hAfter hResult
    cases hResult
    cases result with
    | ok lines => exact ⟨rfl, hAfter⟩
    | error e => cases e <;> exact ⟨rfl, hAfter⟩

theorem validityTableMissing (h : Matches R first second) (name : String) :
    Corresponds R (first.validityTableMissing name) (second.validityTableMissing name) := by
  unfold Backend.validityTableMissing
  rw [h.mode]
  cases first.mode with
  | durable => exact (h.tableExists name).step fun found => .ok !found
  | ephemeral =>
    intro session other hRelated
    refine ⟨?_, hRelated⟩
    change Except.ok (!other.counters.isCreated name) = .ok (!session.counters.isCreated name)
    rw [h.counters hRelated]

theorem noteValidityTable (h : Matches R first second) (name : String) :
    Corresponds R (first.noteValidityTable name) (second.noteValidityTable name) := by
  unfold Backend.noteValidityTable
  rw [h.mode]
  cases first.mode with
  | durable => exact .ok ()
  | ephemeral =>
    intro session other hRelated
    have hMarked := h.recounted (session.counters.markCreated name) hRelated
    change _ ∧ R { session with counters := session.counters.markCreated name }
      { other with counters := other.counters.markCreated name }
    rw [h.counters hRelated]
    exact ⟨rfl, hMarked⟩

theorem removeSeqno (h : Matches R first second) (table : String) (seqno : UInt32) :
    Corresponds R (first.removeSeqno table seqno) (second.removeSeqno table seqno) := by
  unfold Backend.removeSeqno
  rw [h.mode]
  cases first.mode with
  | durable =>
    exact (h.queryLeniently _).step fun _ => (h.queryLeniently _).step fun _ => .ok ()
  | ephemeral => exact .ok ()

theorem acquireSeqno (h : Matches R first second) (table : String) (scope : Scope) :
    Corresponds R (first.acquireSeqno table scope) (second.acquireSeqno table scope) := by
  unfold Backend.acquireSeqno
  rw [h.mode]
  cases first.mode with
  | durable =>
    exact (h.allocate table scope).step fun seqno => (h.removeSeqno table seqno).step fun _ =>
      .ok seqno
  | ephemeral =>
    intro session other hRelated
    have hTaken := h.recounted (session.counters.allocate table).2 hRelated
    change Except.ok (other.counters.allocate table).1 = .ok (session.counters.allocate table).1 ∧
      R { session with counters := (session.counters.allocate table).2 }
        { other with counters := (other.counters.allocate table).2 }
    rw [h.counters hRelated]
    exact ⟨rfl, hTaken⟩

theorem createKeyword (h : Matches R first second) :
    second.createKeyword = first.createKeyword := by
  rw [Backend.createKeyword, Backend.createKeyword, h.mode]

theorem ensureValidityTable (h : Matches R first second) (header : Header) :
    Corresponds R (Block.ensureValidityTable first header)
      (Block.ensureValidityTable second header) := by
  refine (h.validityTableMissing _).step fun missing => ?_
  cases missing with
  | false => exact .ok false
  | true =>
    rw [h.createKeyword]
    exact (h.noteValidityTable _).step fun _ => (h.query _).discard.step fun _ => .ok true

theorem begin (h : Matches R first second) (settings : BlockSettings) (line : String) :
    Corresponds R (Block.begin first settings line) (Block.begin second settings line) :=
  Block.begin_corresponds fun header _ => h.tableExists header.table

theorem applyReady (h : Matches R first second) (settings : BlockSettings) (inserted : String)
    (header : Header) (rows : Rows) :
    Corresponds R (Block.applyReady first settings inserted header rows)
      (Block.applyReady second settings inserted header rows) :=
  Block.applyReady_corresponds (h.ensureValidityTable header) (h.acquireSeqno _ _) fun seqno =>
    Block.store_corresponds (fun sql _ => (h.query sql).discard) (h.removeSeqno _ seqno)

theorem applyAt (h : Matches R first second) (inserted : String) (block : Block) :
    Corresponds R (Block.applyAt first inserted block) (Block.applyAt second inserted block) :=
  Block.applyAt_corresponds fun header rows _ => h.applyReady block.settings inserted header rows

theorem apply (h : Matches R first second) (block : Block) :
    Corresponds R (Block.apply first block) (Block.apply second block) :=
  h.now.bind fun date => h.applyAt date block

end Backend.Matches

namespace UpdateFile

/-- The parts of an update by two backends correspond. `admits` tells which blocks may be open. -/
structure Aligned (R : Session τ → Session σ → Prop) (first : Backend τ) (second : Backend σ)
    (settings : BlockSettings) (admits : Block → Prop) (items : List Item) : Prop where
  apply : ∀ block, admits block → Corresponds R (block.apply first) (block.apply second)
  addRow : ∀ {block next line}, admits block → block.addRow line = .ok next → admits next
  query : ∀ text, .statement text ∈ items → Corresponds R (first.query text) (second.query text)
  begin : ∀ line, .header line ∈ items →
    Corresponds R (Block.begin first settings line) (Block.begin second settings line)
  begun : ∀ {line session block after}, .header line ∈ items →
    Block.begin first settings line session = (.ok block, after) → admits block

variable {R : Session τ → Session σ → Prop} {first : Backend τ} {second : Backend σ}
  {settings : BlockSettings} {admits : Block → Prop}

theorem Aligned.tail {item : Item} {rest : List Item}
    (h : Aligned R first second settings admits (item :: rest)) :
    Aligned R first second settings admits rest where
  apply := h.apply
  addRow := h.addRow
  query text hMem := h.query text (List.mem_cons_of_mem _ hMem)
  begin line hMem := h.begin line (List.mem_cons_of_mem _ hMem)
  begun hMem := h.begun (List.mem_cons_of_mem _ hMem)

/-- The open block, if there is one, is admitted. -/
def Reached.Admitted (admits : Block → Prop) (reached : Reached) : Prop :=
  ∀ block, reached.block = some block → admits block

theorem Reached.admitted_none {reached : Reached} (h : reached.block = none) :
    reached.Admitted admits := by
  intro block hBlock
  rw [h] at hBlock
  cases hBlock

theorem advance_corresponds (admits : Block → Prop) {reached : Reached} {step : Action τ Reached}
    {following : Action σ Reached} {next : Reached → StateM (Session τ) Stopped}
    {later : Reached → StateM (Session σ) Stopped} (h : Corresponds R step following)
    (hAdmits : ∀ session reached after, step session = (.ok reached, after) →
      reached.Admitted admits)
    (hNext : ∀ reached : Reached, reached.Admitted admits →
      Corresponds R (next reached) (later reached)) :
    Corresponds R (advance reached step next) (advance reached following later) := by
  intro session other hRelated
  obtain ⟨hResult, hAfter⟩ := h session other hRelated
  unfold advance
  rcases hFirst : step session with ⟨e | reached, after⟩ <;>
    rcases hSecond : following other with ⟨result, last⟩ <;>
    rw [hFirst, hSecond] at hAfter hResult <;> cases hResult
  · exact ⟨rfl, hAfter⟩
  · exact hNext reached (hAdmits session reached after hFirst) after last hAfter

theorem Reached.close_block {reached closed : Reached} {session after : Session τ}
    (h : reached.close first session = (.ok closed, after)) : closed.block = none := by
  unfold close at h
  cases hBlock : reached.block with
  | none =>
    rw [hBlock] at h
    cases h
    exact hBlock
  | some block =>
    simp only [hBlock] at h
    rcases hApply : block.apply first session with ⟨⟨_ | _, _⟩, _⟩ <;> rw [hApply] at h <;> cases h
    rfl

theorem Aligned.close {items : List Item} (h : Aligned R first second settings admits items)
    {reached : Reached} (hReached : reached.Admitted admits) :
    Corresponds R (reached.close first) (reached.close second) := by
  unfold Reached.close
  cases hBlock : reached.block with
  | none => exact .ok _
  | some block =>
    intro session other hRelated
    obtain ⟨hResult, hAfter⟩ := h.apply block (hReached block hBlock) session other hRelated
    simp only
    rcases hFirst : block.apply first session with ⟨⟨result, ended⟩, after⟩
    rcases hSecond : block.apply second other with ⟨_, last⟩
    rw [hFirst, hSecond] at hAfter hResult
    cases hResult
    cases result <;> exact ⟨rfl, hAfter⟩

theorem Aligned.start {line : String} {rest : List Item}
    (h : Aligned R first second settings admits (.header line :: rest)) (reached : Reached) :
    Corresponds R (reached.start first settings line) (reached.start second settings line) := by
  refine (h.begin line (by simp)).step fun block => ?_
  cases block.stage.refusal? with
  | some reason => exact .throw _
  | none => exact .ok _

theorem Aligned.started {line : String} {rest : List Item}
    (h : Aligned R first second settings admits (.header line :: rest)) {reached next : Reached}
    {session after : Session τ}
    (hStart : reached.start first settings line session = (.ok next, after)) :
    next.Admitted admits := by
  rw [Reached.start, Action.bind_apply] at hStart
  rcases hBegin : Block.begin first settings line session with ⟨e | block, begun⟩
  · rw [hBegin] at hStart
    cases hStart
  · simp only [hBegin] at hStart
    cases hRefusal : block.stage.refusal? with
    | some reason =>
      rw [hRefusal] at hStart
      cases hStart
    | none =>
      rw [hRefusal] at hStart
      cases hStart
      intro open' hOpen
      cases hOpen
      exact h.begun (by simp) hBegin

theorem Aligned.rowAdded {items : List Item} (h : Aligned R first second settings admits items)
    {n : Nat} {line : String} {reached next : Reached} (hReached : reached.Admitted admits)
    (hRow : reached.addRow n line = .ok next) : next.Admitted admits := by
  unfold Reached.addRow at hRow
  cases hBlock : reached.block with
  | none =>
    rw [hBlock] at hRow
    cases hRow
  | some block =>
    rw [hBlock] at hRow
    cases hAdded : block.addRow line with
    | error e =>
      simp only [hAdded] at hRow
      cases hRow
    | ok added =>
      simp only [hAdded] at hRow
      cases hRow
      intro open' hOpen
      cases hOpen
      exact h.addRow (hReached block hBlock) hAdded

/-- The runs over the items of a file correspond, whatever was reached before. -/
theorem Aligned.run {items : List Item} (h : Aligned R first second settings admits items)
    (reached : Reached) (hReached : reached.Admitted admits) :
    Corresponds R (UpdateFile.run first settings reached items)
      (UpdateFile.run second settings reached items) := by
  -- Both runs stop at the same item, so what is reached is the same as long as they go on.
  induction items generalizing reached with
  | nil =>
    exact advance_corresponds admits (h.close hReached)
      (fun _ _ _ hClose => Reached.admitted_none (Reached.close_block hClose)) fun _ _ => .pure _
  | cons item rest ih =>
    cases item with
    | statement text =>
      refine advance_corresponds admits ((h.query text (by simp)).discard.step fun _ => .ok _) ?_
        fun _ hNext => ih h.tail _ hNext
      intro session next after hExecute
      rw [Reached.execute, Action.bind_apply, Action.discard_apply] at hExecute
      rcases hQuery : first.query text session with ⟨_ | _, _⟩ <;> rw [hQuery] at hExecute <;>
        cases hExecute
      exact hReached
    | header line =>
      refine advance_corresponds admits (h.close hReached)
        (fun _ _ _ hClose => Reached.admitted_none (Reached.close_block hClose)) fun _ _ => ?_
      exact advance_corresponds admits (h.start _) (fun _ _ _ => h.started) fun _ hNext =>
        ih h.tail _ hNext
    | row n line =>
      refine advance_corresponds admits (fun _ _ hRelated => ⟨rfl, hRelated⟩) ?_
        fun _ hNext => ih h.tail _ hNext
      intro session next after hRow
      exact h.rowAdded hReached (Prod.mk.inj hRow).1
    | stop e => exact .pure _

theorem Aligned.file {lines : List SourceLine}
    (h : Aligned R first second settings admits (items lines)) :
    Corresponds R (UpdateFile.apply first settings lines)
      (UpdateFile.apply second settings lines) := by
  intro session other hRelated
  obtain ⟨hResult, hAfter⟩ := h.run {} (Reached.admitted_none rfl) session
    other hRelated
  rw [apply_eq_run, apply_eq_run]
  exact ⟨congrArg Stopped.result hResult, hAfter⟩

end UpdateFile

namespace Backend.Matches

variable {R : Session τ → Session σ → Prop} {first : Backend τ} {second : Backend σ}

theorem aligned (h : Matches R first second) (settings : BlockSettings)
    (items : List UpdateFile.Item) :
    UpdateFile.Aligned R first second settings (fun _ => True) items where
  apply block _ := h.apply block
  addRow _ _ := trivial
  query text _ := h.query text
  begin line _ := h.begin settings line
  begun _ _ := trivial

end Backend.Matches

namespace Updater

variable {R : Session τ → Session σ → Prop} {first : Backend τ} {second : Backend σ}

theorem checkScope_corresponds (h : Backend.Matches R first second) (config : Config)
    (scope : Scope) :
    Corresponds R (checkScope ⟨config, first⟩ scope) (checkScope ⟨config, second⟩ scope) := by
  unfold checkScope
  simp only [h.mode]
  cases scope with
  | locally => exact .ok ()
  | globally =>
    cases first.mode with
    | ephemeral => exact .throw _
    | durable =>
      refine (h.tableExists globalSequenceTable).step fun authorising => ?_
      cases authorising with
      | false => exact .throw _
      | true => exact .ok ()

theorem applySource_corresponds (h : Backend.Matches R first second) (config : Config)
    (scope : Scope) (source : Except IoFault (List SourceLine)) :
    Corresponds R (applySource ⟨config, first⟩ scope source)
      (applySource ⟨config, second⟩ scope source) := by
  refine (checkScope_corresponds h config scope).step fun _ => ?_
  cases source with
  | error fault => exact .throw _
  | ok lines => exact (h.aligned (blockSettings config scope) (UpdateFile.items lines)).file

/-- Looking for a table comes before a statement about it, and before the tables after it. -/
theorem ifExists_corresponds (h : Backend.Matches R first second) (table sql : String)
    {rest : Action τ (List String)} {following : Action σ (List String)}
    (hRest : Corresponds R rest following) :
    Corresponds R
      (do
        if ← first.tableExists table then
          discard (first.query sql)
          return table :: (← rest)
        else rest : Action τ (List String))
      (do
        if ← second.tableExists table then
          discard (second.query sql)
          return table :: (← following)
        else following : Action σ (List String)) := by
  refine (h.tableExists table).step fun found => ?_
  cases found with
  | false => exact hRest
  | true => exact (h.query sql).discard.step fun _ => hRest.step fun _ => .ok _

theorem dropExisting_corresponds (h : Backend.Matches R first second) (config : Config)
    (tables : List String) :
    Corresponds R (dropExisting ⟨config, first⟩ tables) (dropExisting ⟨config, second⟩ tables) := by
  induction tables with
  | nil => exact .ok []
  | cons table rest ih => exact ifExists_corresponds h table _ ih

theorem clearExisting_corresponds (h : Backend.Matches R first second) (config : Config)
    (name : String) (tables : List String) :
    Corresponds R (clearExisting ⟨config, first⟩ name tables)
      (clearExisting ⟨config, second⟩ name tables) := by
  induction tables with
  | nil => exact .ok []
  | cons table rest ih => exact ifExists_corresponds h table _ ih

theorem dropTable_corresponds (h : Backend.Matches R first second) (config : Config)
    (name : String) :
    Corresponds R (dropTable ⟨config, first⟩ name) (dropTable ⟨config, second⟩ name) := by
  unfold dropTable
  simp only [h.mode]
  cases first.mode with
  | ephemeral => exact .throw _
  | durable =>
    exact (dropExisting_corresponds h config _).step fun _ =>
      (clearExisting_corresponds h config name _).step fun _ => .ok _

end Updater

end ValidityTables
