import ValidityTables.Proofs.BlockLifecycle
import ValidityTables.Proofs.FileSteps

/-! # The applications of a program

A program applies blocks one by one, and in files. Its trials are all these applications in order,
each with the session in which it began. Only trials change the counters of a session, so the
counters in which a trial begins are those that the trial before it has left.
-/

namespace ValidityTables

variable {σ α : Type}

/-- An application of a block with rows. -/
structure Trial (σ : Type) where
  settings : BlockSettings
  inserted : String
  header : Header
  rows : Rows
  session : Session σ

namespace Trial

variable (backend : Backend σ) (trial : Trial σ)

def ended : (Except UpdateError BlockReport × Stage) × Session σ :=
  Block.applyReady backend trial.settings trial.inserted trial.header trial.rows trial.session

/-- The sequence number that was acquired, if it came to that. -/
def seqno? : Option UInt32 := (trial.ended backend).1.2.seqno?

def after : Session σ := (trial.ended backend).2

def calls : List Call :=
  (Block.applyReady backend.recorded trial.settings trial.inserted trial.header trial.rows
    (trial.session.recording [])).2.world.calls

end Trial

/-- Applying a block is a trial if it is ready and has rows. -/
def Block.trials (inserted : String) (block : Block) (session : Session σ) : List (Trial σ) :=
  match block.stage with
  | .ready header rows =>
    if rows.isEmpty then []
    else [{ settings := block.settings, inserted, header, rows, session }]
  | .refused _ | .applied _ _ _ | .failed _ _ _ => []

namespace UpdateFile

variable (backend : Backend σ) (settings : BlockSettings)

def Reached.trials (reached : Reached) (session : Session σ) : List (Trial σ) :=
  match reached.block with
  | none => []
  | some block => block.trials (backend.now session).1 (backend.now session).2

def Item.trials (reached : Reached) (session : Session σ) : Item → List (Trial σ)
  | .header _ => reached.trials backend session
  | .statement _ | .row _ _ | .stop _ => []

/-- The trials of going through items and closing the last block. -/
def trialsFrom (reached : Reached) (session : Session σ) : List Item → List (Trial σ)
  | [] => reached.trials backend session
  | item :: rest =>
    item.trials backend reached session ++
      match item.perform backend settings reached session with
      | (.ok next, after) => trialsFrom next after rest
      | (.error _, _) => []

def trials (lines : List SourceLine) (session : Session σ) : List (Trial σ) :=
  trialsFrom backend settings {} session (items lines)

end UpdateFile

namespace Updater

variable (updater : Updater σ)

def fileTrials (scope : Scope) (source : Except IoFault (List SourceLine)) (session : Session σ) :
    List (Trial σ) :=
  match updater.checkScope scope session, source with
  | (.ok _, after), .ok lines =>
    UpdateFile.trials updater.backend (blockSettings updater.config scope) lines after
  | _, _ => []

def operationTrials (blocks : List Block) (session : Session σ) : Operation → List (Trial σ)
  | .applyFile scope source => updater.fileTrials scope source session
  | .applyBlock index inserted =>
    match blocks[index]? with
    | none => []
    | some block => block.trials inserted session
  | .begin _ _ | .addRow _ _ | .query _ | .tableExists _ | .isAuthorising | .dropTable _ => []

/-- The trials of a program. -/
def trials (blocks : List Block) (session : Session σ) : List Operation → List (Trial σ)
  | [] => []
  | operation :: rest =>
    let ((_, next), after) := updater.perform blocks operation session
    updater.operationTrials blocks session operation ++ trials next after rest

end Updater

/-- The trials take the counters from one to the next, and nothing else changes them. -/
inductive Follows (backend : Backend σ) :
    SequenceCounters → List (Trial σ) → SequenceCounters → Prop
  | done (counters : SequenceCounters) : Follows backend counters [] counters
  | trial {trial : Trial σ} {rest : List (Trial σ)} {counters : SequenceCounters} :
      Follows backend (trial.after backend).counters rest counters →
      Follows backend trial.session.counters (trial :: rest) counters

namespace Follows

variable {backend : Backend σ} {before middle after : SequenceCounters}

theorem append {first later : List (Trial σ)} (h : Follows backend before first middle)
    (hLater : Follows backend middle later after) :
    Follows backend before (first ++ later) after := by
  induction h with
  | done => exact hLater
  | trial _ ih => exact .trial (ih hLater)

theorem split {first later : List (Trial σ)} (h : Follows backend before (first ++ later) after) :
    ∃ middle, Follows backend before first middle ∧ Follows backend middle later after := by
  induction first generalizing before with
  | nil => exact ⟨before, .done before, h⟩
  | cons trial rest ih =>
    obtain _ | hRest := h
    obtain ⟨middle, hFirst, hLater⟩ := ih hRest
    exact ⟨middle, .trial hFirst, hLater⟩

theorem unchanged (h : after = before) : Follows backend before [] after := by
  rw [h]
  exact .done before

end Follows

section Counters

variable (backend : Backend σ)

theorem Backend.attempt_counters (sql : String) (left : Nat) (session : Session σ) :
    (backend.attempt sql left session).2.counters = session.counters := by
  induction left generalizing session with
  | zero => rfl
  | succ left ih =>
    unfold attempt
    rcases backend.services.execute sql session.world with ⟨_ | reply, world⟩
    · rfl
    · simp only
      split
      · exact ih _
      · split <;> rfl

theorem Backend.query_counters (sql : String) (session : Session σ) :
    (backend.query sql session).2.counters = session.counters :=
  backend.attempt_counters sql backend.attempts session

theorem Backend.discard_counters (sql : String) (session : Session σ) :
    ((discard (backend.query sql) : Action σ Unit) session).2.counters = session.counters := by
  rw [Action.discard_apply]
  exact backend.query_counters sql session

theorem Backend.tableExists_counters (table : String) (session : Session σ) :
    (backend.tableExists table session).2.counters = session.counters := by
  unfold tableExists
  cases backend.services.probe table session.world with
  | none => rfl
  | some sql =>
    have hQuery := backend.query_counters sql session
    simp only
    rcases hResult : backend.query sql session with ⟨e | lines, after⟩ <;> rw [hResult] at hQuery
    · cases e <;> exact hQuery
    · exact hQuery

theorem Block.begin_counters (settings : BlockSettings) (line : String) (session : Session σ) :
    (Block.begin backend settings line session).2.counters = session.counters := by
  unfold Block.begin
  cases Header.parse line with
  | error reason => rfl
  | ok header =>
    have hExists := backend.tableExists_counters header.table session
    simp only [Action.bind_apply]
    rcases hFound : backend.tableExists header.table session with ⟨e | found, after⟩ <;>
      rw [hFound] at hExists
    · exact hExists
    · cases found with
      | false => exact hExists
      | true =>
        simp only [Bool.not_true, Bool.false_eq_true, if_false]
        cases header.checkDates line <;> exact hExists

/-- Applying a block changes the counters by its trial, if it is one. -/
theorem Block.applyAt_follows (inserted : String) (block : Block) (session : Session σ) :
    Follows backend session.counters (block.trials inserted session)
      (block.applyAt backend inserted session).2.counters := by
  obtain ⟨settings, stage⟩ := block
  cases stage with
  | ready header rows =>
    cases hRows : rows.isEmpty with
    | true =>
      rw [applyAt_waiting backend settings inserted header hRows]
      simpa [Block.trials, hRows] using Follows.done session.counters
    | false =>
      rw [applyAt_ready backend settings inserted header hRows]
      simp only [Block.trials, hRows, Bool.false_eq_true, if_false]
      exact @Follows.trial _ _ { settings, inserted, header, rows, session } _ _ (.done _)
  | refused | applied | failed => exact .done _

end Counters

namespace UpdateFile

variable (backend : Backend σ) (settings : BlockSettings)

theorem Reached.close_follows (reached : Reached) (session : Session σ) :
    Follows backend session.counters (reached.trials backend session)
      (reached.close backend session).2.counters := by
  unfold Reached.trials Reached.close
  cases reached.block with
  | none => exact .done _
  | some block =>
    have hApply := block.applyAt_follows backend (backend.now session).1
      (backend.now session).2
    change Follows backend session.counters _ (block.apply backend session).2.counters at hApply
    simp only
    rcases hEnded : block.apply backend session with ⟨⟨_ | _, _⟩, _⟩ <;> rw [hEnded] at hApply <;>
      exact hApply

theorem Reached.start_counters (reached : Reached) (line : String) (session : Session σ) :
    (reached.start backend settings line session).2.counters = session.counters := by
  have hBegin := Block.begin_counters backend settings line session
  rw [Reached.start, Action.bind_apply]
  rcases hBegun : Block.begin backend settings line session with ⟨_ | block, _⟩ <;>
    rw [hBegun] at hBegin
  · exact hBegin
  · simp only
    cases block.stage.refusal? <;> exact hBegin

theorem Item.perform_follows (reached : Reached) (item : Item) (session : Session σ) :
    Follows backend session.counters (item.trials backend reached session)
      (item.perform backend settings reached session).2.counters := by
  cases item with
  | statement text =>
    refine .unchanged ?_
    rw [Item.perform, Reached.execute, Action.bind_apply]
    have hQuery := backend.discard_counters text session
    rcases hRan : (discard (backend.query text) : Action σ Unit) session with ⟨_ | _, _⟩ <;>
      rw [hRan] at hQuery <;> exact hQuery
  | header line =>
    have hClose := reached.close_follows backend session
    rw [Item.perform, Action.bind_apply]
    rcases hClosed : reached.close backend session with ⟨e | closed, middle⟩ <;>
      rw [hClosed] at hClose
    · exact hClose
    · simp only
      rw [closed.start_counters backend settings line middle]
      exact hClose
  | row | stop => exact .done _

theorem trialsFrom_follows (reached : Reached) (items : List Item) (session : Session σ) :
    Follows backend session.counters (trialsFrom backend settings reached session items)
      ((through backend settings reached items >>= Reached.finish backend)
        session).2.counters := by
  rw [Action.bind_apply]
  induction items generalizing reached session with
  | nil =>
    rw [through_nil]
    simp only [Reached.finish_apply]
    exact reached.close_follows backend session
  | cons item rest ih =>
    have hItem := item.perform_follows backend settings reached session
    rw [through_cons, trialsFrom]
    rcases hPerform : item.perform backend settings reached session with ⟨e | next, middle⟩ <;>
      rw [hPerform] at hItem
    · simpa using hItem
    · exact hItem.append (ih next middle)

theorem apply_follows (lines : List SourceLine) (session : Session σ) :
    Follows backend session.counters (trials backend settings lines session)
      (UpdateFile.apply backend settings lines session).2.counters := by
  rw [apply_eq_through]
  exact trialsFrom_follows backend settings {} (items lines) session

end UpdateFile

namespace Updater

variable {updater : Updater σ}

theorem checkScope_ephemeral (hMode : updater.backend.mode = .ephemeral) (scope : Scope)
    (session : Session σ) : (updater.checkScope scope session).2 = session := by
  unfold checkScope
  rw [hMode]
  cases scope <;> rfl

theorem applySource_follows (hMode : updater.backend.mode = .ephemeral) (scope : Scope)
    (source : Except IoFault (List SourceLine)) (session : Session σ) :
    Follows updater.backend session.counters (updater.fileTrials scope source session)
      (updater.applySource scope source session).2.counters := by
  have hScope := checkScope_ephemeral hMode scope session
  unfold applySource fileTrials
  rw [Action.bind_apply]
  rcases hChecked : updater.checkScope scope session with ⟨e | _, after⟩ <;>
    rw [hChecked] at hScope <;> cases hScope
  · exact .done _
  · cases source with
    | error fault => exact .done _
    | ok lines => exact UpdateFile.apply_follows _ _ lines after

theorem perform_follows (hMode : updater.backend.mode = .ephemeral) (blocks : List Block)
    (operation : Operation) (session : Session σ) :
    Follows updater.backend session.counters (updater.operationTrials blocks session operation)
      (updater.perform blocks operation session).2.counters := by
  cases operation with
  | applyFile scope source => exact applySource_follows hMode scope source session
  | begin settings line =>
    refine .unchanged ?_
    have hBegin := Block.begin_counters updater.backend settings line session
    simp only [perform, ExceptT.run, Action.state_bind_apply]
    rcases hBegun : Block.begin updater.backend settings line session with ⟨_ | _, _⟩ <;>
      rw [hBegun] at hBegin <;> exact hBegin
  | addRow index line =>
    refine .unchanged ?_
    simp only [perform]
    cases blocks[index]? with
    | none => rfl
    | some block =>
      simp only
      cases block.addRow line <;> rfl
  | applyBlock index inserted =>
    simp only [perform, operationTrials]
    cases blocks[index]? with
    | none => exact .done _
    | some block => exact block.applyAt_follows updater.backend inserted session
  | query sql => exact .unchanged (updater.backend.query_counters sql session)
  | tableExists table => exact .unchanged (updater.backend.tableExists_counters table session)
  | isAuthorising =>
    exact .unchanged (updater.backend.tableExists_counters globalSequenceTable session)
  | dropTable name =>
    refine .unchanged ?_
    simp only [perform, dropTable, hMode]
    rfl

theorem performAll_follows (hMode : updater.backend.mode = .ephemeral) (blocks : List Block)
    (operations : List Operation) (session : Session σ) :
    Follows updater.backend session.counters (updater.trials blocks session operations)
      (updater.performAll blocks operations session).2.counters := by
  induction operations generalizing blocks session with
  | nil => exact .done _
  | cons operation rest ih =>
    exact (perform_follows hMode blocks operation session).append (ih _ _)

end Updater

section Recorded

variable (backend : Backend σ)

/-- The record goes on with the calls of the trials, and perhaps others. -/
def Records (trials : List (Trial σ)) (before after : Session (Recorded σ)) : Prop :=
  (before.world.calls ++ trials.flatMap (Trial.calls backend)).Sublist after.world.calls

theorem Records.append {backend : Backend σ} {first later : List (Trial σ)}
    {before middle after : Session (Recorded σ)}
    (h : Records backend first before middle) (hLater : Records backend later middle after) :
    Records backend (first ++ later) before after := by
  rw [Records, List.flatMap_append, ← List.append_assoc]
  exact (h.append_right _).trans hLater

theorem Records.grown {step : StateM (Session (Recorded σ)) α} {session : Session (Recorded σ)}
    (h : Corresponds (fun before other => other = before.prepend session.world.calls) step step) :
    Records backend [] session (step session).2 := by
  rw [Records, List.flatMap_nil, List.append_nil, Session.recorded_calls session h]
  exact List.sublist_append_left _ _

theorem Block.applyAt_records (inserted : String) (block : Block) (session : Session (Recorded σ)) :
    Records backend (block.trials inserted session.forget) session
      (block.applyAt backend.recorded inserted session).2 := by
  have hPrepends := backend.recorded_prepends session.world.calls
  have hGrown := Records.grown backend (hPrepends.applyAt inserted block)
  obtain ⟨settings, stage⟩ := block
  cases stage with
  | ready header rows =>
    cases hRows : rows.isEmpty with
    | true => simpa [Block.trials, hRows] using hGrown
    | false =>
      rw [applyAt_ready backend.recorded settings inserted header hRows]
      simp only [Block.trials, hRows, Bool.false_eq_true, if_false]
      rw [Records,
        Session.recorded_calls session (hPrepends.applyReady settings inserted header rows)]
      simp [Trial.calls]
  | refused | applied | failed => exact hGrown

namespace UpdateFile

theorem Reached.close_records (reached : Reached) (session : Session (Recorded σ)) :
    Records backend (reached.trials backend session.forget) session
      (reached.close backend.recorded session).2 := by
  unfold Reached.trials Reached.close
  cases reached.block with
  | none => exact .grown _ (.ok reached)
  | some block =>
    have hNow : Records backend [] session (backend.recorded.now session).2 :=
      .grown _ (backend.recorded_prepends session.world.calls).now
    have hApply := hNow.append (block.applyAt_records backend (backend.recorded.now session).1
      (backend.recorded.now session).2)
    change Records backend _ session (block.apply backend.recorded session).2 at hApply
    simp only
    rcases hEnded : block.apply backend.recorded session with ⟨⟨_ | _, _⟩, _⟩ <;>
      rw [hEnded] at hApply <;> exact hApply

theorem Item.perform_records (settings : BlockSettings) (reached : Reached) (item : Item)
    (session : Session (Recorded σ)) :
    Records backend (item.trials backend reached session.forget) session
      (item.perform backend.recorded settings reached session).2 := by
  cases item with
  | header line =>
    have hClose := reached.close_records backend session
    rw [Item.perform, Action.bind_apply]
    rcases hClosed : reached.close backend.recorded session with ⟨e | closed, middle⟩ <;>
      rw [hClosed] at hClose
    · exact hClose
    · have hAligned := (backend.recorded_prepends middle.world.calls).aligned settings
        [.header line]
      rw [← List.append_nil (Item.trials _ _ _ _)]
      exact hClose.append (.grown _ (hAligned.start closed))
  | statement | row | stop =>
    exact .grown _ (Item.perform_corresponds (backend.recorded_prepends _) settings reached _)

theorem trialsFrom_records (settings : BlockSettings) (reached : Reached) (items : List Item)
    (session : Session (Recorded σ)) :
    Records backend (trialsFrom backend settings reached session.forget items) session
      ((through backend.recorded settings reached items >>=
        Reached.finish backend.recorded : Action _ _) session).2 := by
  rw [Action.bind_apply]
  induction items generalizing reached session with
  | nil =>
    rw [through_nil]
    simp only [Reached.finish_apply]
    exact reached.close_records backend session
  | cons item rest ih =>
    have hItem := item.perform_records backend settings reached session
    -- The trials are those of the plain run, which the recorded one mirrors.
    rw [through_cons, trialsFrom, item.perform_mirrors backend settings reached session]
    rcases hPerform : item.perform backend.recorded settings reached session with
      ⟨e | next, middle⟩ <;> rw [hPerform] at hItem
    · simpa using hItem
    · exact hItem.append (ih next middle)

end UpdateFile

namespace Updater

variable (updater : Updater σ)

theorem applySource_records (scope : Scope) (source : Except IoFault (List SourceLine))
    (session : Session (Recorded σ)) :
    Records updater.backend (updater.fileTrials scope source session.forget) session
      (updater.recorded.applySource scope source session).2 := by
  have hGrown : Records updater.backend [] session (updater.recorded.checkScope scope session).2 :=
    Records.grown updater.backend (checkScope_corresponds
      (updater.backend.recorded_prepends session.world.calls) updater.config scope)
  unfold applySource fileTrials
  rw [Action.bind_apply, updater.checkScope_mirrors scope session]
  rcases hChecked : updater.recorded.checkScope scope session with ⟨e | _, after⟩ <;>
    rw [hChecked] at hGrown
  · exact hGrown
  · cases source with
    | error fault => exact hGrown
    | ok lines =>
      simp only
      rw [UpdateFile.apply_eq_through]
      exact hGrown.append (UpdateFile.trialsFrom_records _ _ {} (UpdateFile.items lines) after)

theorem perform_records (blocks : List Block) (operation : Operation)
    (session : Session (Recorded σ)) :
    Records updater.backend (updater.operationTrials blocks session.forget operation) session
      (updater.recorded.perform blocks operation session).2 := by
  cases operation with
  | applyFile scope source => exact applySource_records updater scope source session
  | applyBlock index inserted =>
    simp only [perform, operationTrials]
    cases blocks[index]? with
    | none => exact .grown _ (.pure _)
    | some block => exact block.applyAt_records _ inserted session
  | begin | addRow | query | tableExists | isAuthorising | dropTable =>
    exact .grown _
      (perform_corresponds (updater.backend.recorded_prepends _) updater.config blocks _)

/-- The calls of the trials are among those of the program, in their order. -/
theorem trials_calls (blocks : List Block) (operations : List Operation) (session : Session σ) :
    ((updater.trials blocks session operations).flatMap (Trial.calls updater.backend)).Sublist
      (updater.calls blocks operations session) := by
  suffices ∀ recorded : Session (Recorded σ),
      Records updater.backend (updater.trials blocks recorded.forget operations) recorded
        (updater.recorded.performAll blocks operations recorded).2 from
    this (session.recording [])
  induction operations generalizing blocks with
  | nil => exact fun _ => .grown _ (.pure _)
  | cons operation rest ih =>
    intro recorded
    have hPerform := perform_records updater blocks operation recorded
    rw [trials, updater.perform_mirrors blocks operation recorded]
    exact hPerform.append (ih _ _)

end Updater

end Recorded

section Begun

/-- The header of a block was read from a line. -/
def Block.Begun (block : Block) : Prop :=
  ∀ header, block.stage.header? = some header → ∃ line, Header.parse line = .ok header

theorem Block.Advances.begun {block next : Block} (h : block.Advances next) (hBegun : block.Begun) :
    next.Begun := by
  intro header hHeader
  exact hBegun header (h.header.symm.trans hHeader)

theorem Block.begin_begun {backend : Backend σ} {settings : BlockSettings} {line : String}
    {session after : Session σ} {block : Block}
    (h : Block.begin backend settings line session = (.ok block, after)) : block.Begun := by
  intro header hHeader
  obtain ⟨reason, hStage⟩ | ⟨begun, hParse, -, hStage⟩ := begin_stage h <;>
    rw [hStage] at hHeader <;> cases hHeader
  exact ⟨line, hParse⟩

theorem Block.mem_trials {block : Block} {inserted : String} {session : Session σ}
    {trial : Trial σ} (hMem : trial ∈ block.trials inserted session) :
    block = { settings := trial.settings, stage := .ready trial.header trial.rows } := by
  obtain ⟨settings, stage⟩ := block
  cases stage with
  | ready header rows =>
    simp only [Block.trials] at hMem
    split at hMem
    · cases hMem
    · obtain rfl := List.mem_singleton.mp hMem
      rfl
  | refused | applied | failed => cases hMem

theorem Block.trials_begun {block : Block} (h : block.Begun) {inserted : String}
    {session : Session σ} {trial : Trial σ} (hMem : trial ∈ block.trials inserted session) :
    ∃ line, Header.parse line = .ok trial.header := by
  obtain rfl := Block.mem_trials hMem
  exact h trial.header rfl

/-- What holds of every block that is begun with these settings, and lasts. -/
structure Block.Lasting (backend : Backend σ) (settings : BlockSettings) (admits : Block → Prop) :
    Prop where
  begun : ∀ {line session block after},
    Block.begin backend settings line session = (.ok block, after) → admits block
  advanced : ∀ {block next : Block}, block.Advances next → admits block → admits next

theorem Block.begun_lasting (backend : Backend σ) (settings : BlockSettings) :
    Block.Lasting backend settings Block.Begun where
  begun := Block.begin_begun
  advanced := Block.Advances.begun

namespace UpdateFile

variable {backend : Backend σ} {settings : BlockSettings} {admits : Block → Prop}

theorem Item.perform_admitted (hLasting : Block.Lasting backend settings admits)
    {reached next : Reached} {item : Item} {session after : Session σ}
    (h : reached.Admitted admits)
    (hPerform : item.perform backend settings reached session = (.ok next, after)) :
    next.Admitted admits := by
  cases item with
  | statement text =>
    rw [Item.perform, Reached.execute, Action.bind_apply] at hPerform
    rcases hRan : (discard (backend.query text) : Action σ Unit) session with ⟨_ | _, _⟩ <;>
      rw [hRan] at hPerform <;> cases hPerform
    exact h
  | header line =>
    rw [Item.perform, Action.bind_apply] at hPerform
    rcases hClose : reached.close backend session with ⟨_ | closed, middle⟩ <;>
      rw [hClose] at hPerform
    · cases hPerform
    · simp only [Reached.start, Action.bind_apply] at hPerform
      rcases hBegin : Block.begin backend settings line middle with ⟨_ | block, begun⟩ <;>
        rw [hBegin] at hPerform
      · cases hPerform
      · simp only at hPerform
        cases hRefusal : block.stage.refusal? <;> rw [hRefusal] at hPerform <;> cases hPerform
        rintro _ ⟨⟩
        exact hLasting.begun hBegin
  | row n line =>
    rw [Item.perform, Action.mk_pure_apply, Reached.addRow] at hPerform
    cases hBlock : reached.block with
    | none =>
      rw [hBlock] at hPerform
      cases hPerform
    | some block =>
      simp only [hBlock] at hPerform
      cases hAdded : block.addRow line <;> rw [hAdded] at hPerform <;> cases hPerform
      rintro _ ⟨⟩
      exact hLasting.advanced (Block.advances_of_addRow hAdded).1 (h block hBlock)
  | stop e => cases hPerform

theorem Reached.mem_trials {reached : Reached} (h : reached.Admitted admits) {session : Session σ}
    {trial : Trial σ} (hMem : trial ∈ reached.trials backend session) :
    admits { settings := trial.settings, stage := .ready trial.header trial.rows } := by
  rw [Reached.trials] at hMem
  cases hBlock : reached.block with
  | none =>
    rw [hBlock] at hMem
    cases hMem
  | some block =>
    rw [hBlock] at hMem
    obtain rfl := Block.mem_trials hMem
    exact h _ hBlock

theorem mem_trialsFrom (hLasting : Block.Lasting backend settings admits) {items : List Item}
    {reached : Reached} {session : Session σ} (h : reached.Admitted admits) {trial : Trial σ}
    (hMem : trial ∈ trialsFrom backend settings reached session items) :
    admits { settings := trial.settings, stage := .ready trial.header trial.rows } := by
  induction items generalizing reached session with
  | nil => exact Reached.mem_trials h hMem
  | cons item rest ih =>
    rw [trialsFrom] at hMem
    obtain hItem | hLater := List.mem_append.mp hMem
    · cases item with
      | header line => exact Reached.mem_trials h hItem
      | statement | row | stop => cases hItem
    · rcases hPerform : item.perform backend settings reached session with ⟨_ | next, after⟩ <;>
        rw [hPerform] at hLater
      · cases hLater
      · exact ih (Item.perform_admitted hLasting h hPerform) hLater

end UpdateFile

namespace Updater

variable {updater : Updater σ}

theorem mem_fileTrials {scope : Scope} {admits : Block → Prop}
    (hLasting : Block.Lasting updater.backend (blockSettings updater.config scope) admits)
    {source : Except IoFault (List SourceLine)} {session : Session σ} {trial : Trial σ}
    (hMem : trial ∈ updater.fileTrials scope source session) :
    admits { settings := trial.settings, stage := .ready trial.header trial.rows } := by
  unfold fileTrials at hMem
  split at hMem
  · exact UpdateFile.mem_trialsFrom hLasting (UpdateFile.Reached.admitted_none rfl) hMem
  · cases hMem

theorem fileTrials_begun {scope : Scope} {source : Except IoFault (List SourceLine)}
    {session : Session σ} {trial : Trial σ}
    (hMem : trial ∈ updater.fileTrials scope source session) :
    ∃ line, Header.parse line = .ok trial.header :=
  mem_fileTrials (Block.begun_lasting _ _) hMem trial.header rfl

theorem perform_begun {blocks : List Block} (hBlocks : ∀ block ∈ blocks, block.Begun)
    (operation : Operation) (session : Session σ) :
    ∀ block ∈ (updater.perform blocks operation session).1.2, block.Begun := by
  have hSet {index : Nat} {block next : Block} (hBlock : blocks[index]? = some block)
      (hAdvances : block.Advances next) : ∀ other ∈ blocks.set index next, other.Begun := by
    intro other hOther
    obtain hOld | rfl := List.mem_or_eq_of_mem_set hOther
    · exact hBlocks other hOld
    · exact hAdvances.begun (hBlocks block (List.mem_of_getElem? hBlock))
  cases operation with
  | applyFile | query | tableExists | isAuthorising | dropTable => exact hBlocks
  | begin settings line =>
    simp only [perform, ExceptT.run, Action.state_bind_apply]
    rcases hBegin : Block.begin updater.backend settings line session with ⟨_ | block, begun⟩
    · exact hBlocks
    · intro other hOther
      obtain hOld | hNew := List.mem_append.mp hOther
      · exact hBlocks other hOld
      · rw [List.mem_singleton.mp hNew]
        exact Block.begin_begun hBegin
  | addRow index line =>
    simp only [perform]
    cases hBlock : blocks[index]? with
    | none => exact hBlocks
    | some block =>
      simp only
      cases hAdded : block.addRow line with
      | error e => exact hBlocks
      | ok next => exact hSet hBlock (Block.advances_of_addRow hAdded).1
  | applyBlock index inserted =>
    simp only [perform]
    cases hBlock : blocks[index]? with
    | none => exact hBlocks
    | some block =>
      rcases hApply : block.applyAt updater.backend inserted session with ⟨⟨result, next⟩, after⟩
      simp only [Action.state_bind_apply, hApply]
      exact hSet hBlock (Block.advances_of_applyAt hApply).1

/-- Every header of a program that begins without blocks was read from a line. -/
theorem trials_begun {blocks : List Block} (hBlocks : ∀ block ∈ blocks, block.Begun)
    {operations : List Operation} {session : Session σ} {trial : Trial σ}
    (hMem : trial ∈ updater.trials blocks session operations) :
    ∃ line, Header.parse line = .ok trial.header := by
  induction operations generalizing blocks session with
  | nil => cases hMem
  | cons operation rest ih =>
    obtain hFirst | hLater := List.mem_append.mp hMem
    · cases operation with
      | applyFile scope source => exact fileTrials_begun hFirst
      | applyBlock index inserted =>
        simp only [operationTrials] at hFirst
        cases hBlock : blocks[index]? with
        | none =>
          rw [hBlock] at hFirst
          cases hFirst
        | some block =>
          rw [hBlock] at hFirst
          exact Block.trials_begun (hBlocks block (List.mem_of_getElem? hBlock)) hFirst
      | begin | addRow | query | tableExists | isAuthorising | dropTable => cases hFirst
    · exact ih (perform_begun hBlocks operation session) hLater

end Updater

end Begun

end ValidityTables
