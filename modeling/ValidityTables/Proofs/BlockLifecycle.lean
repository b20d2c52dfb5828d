import ValidityTables.Proofs.AllOrNothing
import ValidityTables.Proofs.Operations

/-! # The lifecycle of a block

After every operation of a program each block is ready, applied or failed, and its fields are those
of its stage. A ready block takes rows and is applied once it has some; whatever comes of that, the
block is finished. A finished block never changes again, and applying it once more gives a reason
against it and calls nothing.
-/

namespace ValidityTables

variable {σ : Type}

/-- Only a block with rows can have been applied, or have failed at it. -/
def Stage.Filled : Stage → Prop
  | .refused _ | .ready _ _ => True
  | .applied _ rows _ | .failed _ rows _ => rows.isEmpty = false

namespace Block

/-- Applying the block gives a reason against it and does nothing else. -/
structure Declines (backend : Backend σ) (block : Block) (reason : BlockError) : Prop where
  result : ∀ inserted session,
    applyAt backend inserted block session = ((.error (.block reason), block), session)
  calls : ∀ inserted session, block.calls backend inserted session = []

/-- Applying the block finishes it. It is applied if that succeeds, and has failed otherwise; in a
durable run its number is the one that was handed out for it, if there was one. -/
structure Finishes (backend : Backend σ) (block : Block) (header : Header) : Prop where
  applied : ∀ {inserted session report next after},
    applyAt backend inserted block session = ((.ok report, next), after) →
    next.stage.name = "Applied" ∧ next.stage.seqno? = some report.seqno
  failed : ∀ {inserted session e next after},
    applyAt backend inserted block session = ((.error e, next), after) →
    next.stage.name = "Failed" ∧ ∃ source, e = applicationError header source
  numbered : backend.mode = .durable → ∀ inserted session,
    (handedOut (block.calls backend inserted session)).map Prod.snd =
      (applyAt backend inserted block session).1.2.stage.seqno?.toList

/-- What the fields of a block are in its stage, and what the block does in it. -/
structure Lawful (backend : Backend σ) (block : Block) : Prop where
  named : block.stage.name ∈ ["Ready", "Applied", "Failed"]
  ready : block.stage.name = "Ready" → ∃ header, block.stage.header? = some header ∧
    block.stage.refusal? = none ∧ block.stage.seqno? = none ∧
    (block.stage.rows.isEmpty = true → block.Declines backend (.empty header.table)) ∧
    (block.stage.rows.isEmpty = false → block.Finishes backend header) ∧
    ∀ line, ∃ next, block.addRow line = .ok next ∧ next.canApply = true
  applied : block.stage.name = "Applied" → ∃ header seqno, block.stage.header? = some header ∧
    block.stage.refusal? = none ∧ block.stage.seqno? = some seqno ∧
    block.stage.rows.isEmpty = false ∧ block.Declines backend (.closed header.table)
  failed : block.stage.name = "Failed" →
    (∃ reason, block.stage.refusal? = some reason ∧ block.stage.header? = none ∧
      block.stage.rows = {} ∧ block.stage.seqno? = none ∧ block.Declines backend reason) ∨
    (∃ header, block.stage.header? = some header ∧ block.stage.refusal? = none ∧
      block.stage.rows.isEmpty = false ∧ block.Declines backend (.closed header.table))
  finished : block.stage.name ≠ "Ready" → ∀ {line next}, block.addRow line = .ok next → next = block

theorem declines_of {block : Block} {reason : BlockError} (backend : Backend σ)
    (h : ∀ {τ : Type} (backend : Backend τ) inserted session,
      applyAt backend inserted block session = ((.error (.block reason), block), session)) :
    block.Declines backend reason where
  result inserted session := h backend inserted session
  calls inserted session := by rw [calls, h backend.recorded]; rfl

theorem application_seqno {keyword : String} {probe : Option String} {settings : BlockSettings}
    {inserted : String} {header : Header} {rows : Rows} {events : List Event}
    {outcome : Except UpdateError BlockReport × Stage}
    (h : Application .durable keyword probe settings inserted header rows events outcome) :
    (numbers events).map Prod.snd = outcome.2.seqno?.toList := by
  have hRefused {events : List Event} {e : UpdateError}
      (h : Acquires header.table settings.scope .durable events (.error e)) :
      numbers events = [] := by
    cases h
    rfl
  have hAllocated {events : List Event} {seqno : UInt32}
      (h : Acquires header.table settings.scope .durable events (.ok seqno)) :
      numbers events = [(header.table, seqno)] := by
    cases h with
    | allocated hRemoves => exact congrArg ((header.table, seqno) :: ·) hRemoves.numbers_eq
  cases h with
  | notEnsured hEnsures => rw [hEnsures.numbers_eq]; rfl
  | notAcquired hEnsures hAcquires =>
    rw [numbers_append, hEnsures.numbers_eq, hRefused hAcquires]
    rfl
  | notStored hEnsures hAcquires hStores | stored hEnsures hAcquires hStores =>
    rw [numbers_append, numbers_append, hEnsures.numbers_eq, hAllocated hAcquires,
      hStores.numbers_eq]
    rfl

/-- What may come of the application of a ready block. -/
theorem application_stage {mode : Mode} {keyword : String} {probe : Option String}
    {settings : BlockSettings} {inserted : String} {header : Header} {rows : Rows}
    {events : List Event} {outcome : Except UpdateError BlockReport × Stage}
    (h : Application mode keyword probe settings inserted header rows events outcome) :
    (∃ report, outcome = (.ok report, .applied header rows report.seqno)) ∨
      ∃ source seqno, outcome =
        (.error (applicationError header source), .failed header rows seqno) := by
  cases h with
  | notEnsured => exact .inr ⟨_, none, rfl⟩
  | notAcquired => exact .inr ⟨_, none, rfl⟩
  | notStored => exact .inr ⟨_, some _, rfl⟩
  | stored => exact .inl ⟨_, rfl⟩

theorem finishes (backend : Backend σ) (settings : BlockSettings) (header : Header) {rows : Rows}
    (hRows : rows.isEmpty = false) :
    Finishes backend { settings, stage := .ready header rows } header where
  applied {inserted session report next after} h := by
    obtain ⟨events, -, hApplication, -⟩ :=
      applyAt_events backend settings inserted header rows session hRows
    simp only [h] at hApplication
    obtain ⟨_, hOutcome⟩ | ⟨_, _, hOutcome⟩ := application_stage hApplication
    · obtain ⟨hReport, hStage⟩ := Prod.mk.inj hOutcome
      cases hReport
      rw [hStage]
      exact ⟨rfl, rfl⟩
    · cases (Prod.mk.inj hOutcome).1
  failed {inserted session e next after} h := by
    obtain ⟨events, -, hApplication, -⟩ :=
      applyAt_events backend settings inserted header rows session hRows
    simp only [h] at hApplication
    obtain ⟨_, hOutcome⟩ | ⟨source, _, hOutcome⟩ := application_stage hApplication
    · cases (Prod.mk.inj hOutcome).1
    · obtain ⟨hError, hStage⟩ := Prod.mk.inj hOutcome
      rw [hStage]
      exact ⟨rfl, source, Except.error.inj hError⟩
  numbered hMode inserted session := by
    obtain ⟨events, hRealizes, hApplication, -⟩ :=
      applyAt_events backend settings inserted header rows session hRows
    rw [hMode] at hApplication
    rw [handedOut_of_realizes hRealizes]
    exact application_seqno hApplication

theorem lawful_of_filled (backend : Backend σ) {block : Block} (h : block.stage.Filled) :
    block.Lawful backend := by
  obtain ⟨settings, stage⟩ := block
  cases stage with
  | refused reason =>
    exact {
      named := by simp [Stage.name]
      ready := by simp [Stage.name]
      applied := by simp [Stage.name]
      failed := fun _ => .inl
        ⟨reason, rfl, rfl, rfl, rfl, declines_of backend fun _ _ _ => rfl⟩
      finished := fun _ _ _ hAdded => (Except.ok.inj hAdded).symm }
  | ready header rows =>
    exact {
      named := by simp [Stage.name]
      ready := fun _ => ⟨header, rfl, rfl, rfl,
        fun hRows => declines_of backend fun backend inserted session =>
          applyAt_waiting backend settings inserted header hRows session,
        fun hRows => finishes backend settings header hRows,
        fun line => ⟨_, rfl, by simp [canApply, Rows.push, Rows.isEmpty]⟩⟩
      applied := by simp [Stage.name]
      failed := by simp [Stage.name]
      finished := by simp [Stage.name] }
  | applied header rows seqno =>
    exact {
      named := by simp [Stage.name]
      ready := by simp [Stage.name]
      applied := fun _ => ⟨header, seqno, rfl, rfl, rfl, h, declines_of backend fun _ _ _ => rfl⟩
      failed := by simp [Stage.name]
      finished := fun _ _ _ hAdded => by cases hAdded }
  | failed header rows seqno =>
    exact {
      named := by simp [Stage.name]
      ready := by simp [Stage.name]
      applied := by simp [Stage.name]
      failed := fun _ => .inr ⟨header, rfl, rfl, h, declines_of backend fun _ _ _ => rfl⟩
      finished := fun _ _ _ hAdded => (Except.ok.inj hAdded).symm }

/-- How a block may change. -/
structure Advances (block next : Block) : Prop where
  settings : next.settings = block.settings
  header : next.stage.header? = block.stage.header?
  rows : block.stage.rows.toList <+: next.stage.rows.toList
  finished : block.stage.name ≠ "Ready" → next = block

theorem Advances.refl (block : Block) : block.Advances block :=
  ⟨rfl, rfl, List.prefix_rfl, fun _ => rfl⟩

theorem Advances.trans {block next last : Block} (h : block.Advances next)
    (hLast : next.Advances last) : block.Advances last where
  settings := hLast.settings.trans h.settings
  header := hLast.header.trans h.header
  rows := h.rows.trans hLast.rows
  finished hName := by
    obtain rfl := h.finished hName
    exact hLast.finished hName

theorem advances_of_addRow {block next : Block} {line : String}
    (h : block.addRow line = .ok next) :
    block.Advances next ∧ (block.stage.Filled → next.stage.Filled) := by
  obtain ⟨settings, stage⟩ := block
  cases stage with
  | refused reason => cases h; exact ⟨.refl _, id⟩
  | ready header rows =>
    cases h
    refine ⟨⟨rfl, rfl, ?_, fun hName => absurd rfl hName⟩, fun _ => trivial⟩
    exact ⟨[(Rows.stored settings.convertUnsigned line).1],
      (Array.toList_push ..).symm⟩
  | applied header rows seqno => cases h
  | failed header rows seqno => cases h; exact ⟨.refl _, id⟩

theorem advances_of_applyAt {backend : Backend σ} {inserted : String} {block next : Block}
    {session after : Session σ} {result : Except UpdateError BlockReport}
    (h : applyAt backend inserted block session = ((result, next), after)) :
    block.Advances next ∧ (block.stage.Filled → next.stage.Filled) := by
  obtain ⟨settings, stage⟩ := block
  cases stage with
  | refused reason => cases h; exact ⟨.refl _, id⟩
  | applied header rows seqno => cases h; exact ⟨.refl _, id⟩
  | failed header rows seqno => cases h; exact ⟨.refl _, id⟩
  | ready header rows =>
    cases hRows : rows.isEmpty with
    | true =>
      rw [applyAt_waiting backend settings inserted header hRows] at h
      cases h
      exact ⟨.refl _, id⟩
    | false =>
      rw [applyAt_ready backend settings inserted header hRows] at h
      rcases hReady : applyReady backend settings inserted header rows session with
        ⟨outcome, last⟩
      obtain ⟨events, hApplication, -⟩ := applyReady_traces hReady
      rw [hReady] at h
      cases h
      obtain ⟨_, rfl⟩ | ⟨_, _, rfl⟩ := application_stage hApplication <;>
        exact ⟨⟨rfl, rfl, List.prefix_rfl, fun hName => absurd rfl hName⟩, fun _ => hRows⟩

end Block

/-- How the blocks of a program change: those that were begun stay at their places. -/
structure Evolves (before after : List Block) : Prop where
  advances : ∀ {index : Nat} {block : Block}, before[index]? = some block →
    ∃ next, after[index]? = some next ∧ block.Advances next
  filled : (∀ block ∈ before, block.stage.Filled) → ∀ block ∈ after, block.stage.Filled

namespace Evolves

theorem refl (blocks : List Block) : Evolves blocks blocks :=
  ⟨fun {_ block} h => ⟨block, h, Block.Advances.refl block⟩, id⟩

theorem trans {before middle after : List Block} (h : Evolves before middle)
    (hLater : Evolves middle after) : Evolves before after where
  advances hBlock := by
    obtain ⟨next, hNext, hAdvances⟩ := h.advances hBlock
    obtain ⟨last, hLast, hAdvancesLater⟩ := hLater.advances hNext
    exact ⟨last, hLast, hAdvances.trans hAdvancesLater⟩
  filled hFilled := hLater.filled (h.filled hFilled)

theorem push (blocks : List Block) {block : Block} (hFilled : block.stage.Filled) :
    Evolves blocks (blocks ++ [block]) where
  advances {index kept} hKept := by
    have hIndex : index < blocks.length := (List.getElem?_eq_some_iff.mp hKept).1
    exact ⟨kept, by rw [List.getElem?_append_left hIndex, hKept], .refl kept⟩
  filled hBefore other hOther := by
    obtain hOld | hNew := List.mem_append.mp hOther
    · exact hBefore other hOld
    · rw [List.mem_singleton.mp hNew]
      exact hFilled

theorem set {blocks : List Block} {index : Nat} {block next : Block}
    (hBlock : blocks[index]? = some block)
    (h : block.Advances next ∧ (block.stage.Filled → next.stage.Filled)) :
    Evolves blocks (blocks.set index next) where
  advances {place kept} hKept := by
    by_cases hPlace : index = place
    · subst hPlace
      have hIndex : index < blocks.length := (List.getElem?_eq_some_iff.mp hBlock).1
      rw [hBlock] at hKept
      cases hKept
      exact ⟨next, List.getElem?_set_self hIndex, h.1⟩
    · exact ⟨kept, by rw [List.getElem?_set_ne hPlace, hKept], .refl kept⟩
  filled hBefore other hOther := by
    obtain hOld | rfl := List.mem_or_eq_of_mem_set hOther
    · exact hBefore other hOld
    · exact h.2 (hBefore block (List.mem_of_getElem? hBlock))

end Evolves

namespace Updater

theorem perform_evolves {updater : Updater σ} {blocks after : List Block} {operation : Operation}
    {outcome : Outcome} {session last : Session σ}
    (h : updater.perform blocks operation session = ((outcome, after), last)) :
    Evolves blocks after := by
  cases operation with
  | applyFile _ _ | query _ | tableExists _ | isAuthorising | dropTable _ =>
    cases h
    exact .refl _
  | begin settings line =>
    rw [perform, Action.state_bind_apply] at h
    rcases hBegin : Block.begin updater.backend settings line session with ⟨e | block, begun⟩
    · simp only [ExceptT.run, hBegin] at h
      cases h
      exact .refl _
    · simp only [ExceptT.run, hBegin] at h
      cases h
      have hFilled : block.stage.Filled := by
        obtain ⟨_, hStage⟩ | ⟨_, -, -, hStage⟩ := Block.begin_stage hBegin <;>
          rw [hStage] <;> trivial
      exact .push _ hFilled
  | addRow index line =>
    cases hBlock : blocks[index]? with
    | none =>
      simp only [perform, hBlock] at h
      cases h
      exact .refl _
    | some block =>
      cases hAdded : block.addRow line with
      | error e =>
        simp only [perform, hBlock, hAdded] at h
        cases h
        exact .refl _
      | ok next =>
        simp only [perform, hBlock, hAdded] at h
        cases h
        exact .set hBlock (Block.advances_of_addRow hAdded)
  | applyBlock index inserted =>
    cases hBlock : blocks[index]? with
    | none =>
      simp only [perform, hBlock] at h
      cases h
      exact .refl _
    | some block =>
      simp only [perform, hBlock] at h
      cases h
      exact .set hBlock (Block.advances_of_applyAt rfl)

theorem performAll_evolves (updater : Updater σ) (blocks : List Block)
    (operations : List Operation) (session : Session σ) :
    let observations := (updater.performAll blocks operations session).1.1
    (∀ observation ∈ observations, Evolves blocks observation.blocks) ∧
      observations.Pairwise fun before after => Evolves before.blocks after.blocks := by
  -- What is seen later evolves from the blocks after the first operation.
  induction operations generalizing blocks session with
  | nil => exact ⟨fun _ hMem => absurd hMem List.not_mem_nil, .nil⟩
  | cons operation rest ih =>
    rcases hPerform : updater.perform blocks operation session with ⟨⟨outcome, begun⟩, middle⟩
    obtain ⟨hEach, hPairs⟩ := ih begun middle
    have hFirst := perform_evolves hPerform
    simp only [performAll, Action.state_bind_apply, hPerform]
    refine ⟨?_, List.pairwise_cons.mpr ⟨hEach, hPairs⟩⟩
    intro observation hMem
    obtain rfl | hLater := List.mem_cons.mp hMem
    · exact hFirst
    · exact hFirst.trans (hEach observation hLater)

/-- The lifecycle of blocks: after every operation each block is what its stage says, and from one
operation to a later one it is only changed as long as it is not finished. -/
theorem performAll_lifecycle (updater : Updater σ) (operations : List Operation)
    (session : Session σ) :
    let observations := (updater.performAll [] operations session).1.1
    (∀ observation ∈ observations, ∀ block ∈ observation.blocks, block.Lawful updater.backend) ∧
      observations.Pairwise fun before after => ∀ (index : Nat) (block : Block),
        before.blocks[index]? = some block →
          ∃ next, after.blocks[index]? = some next ∧ block.Advances next := by
  intro observations
  obtain ⟨hEach, hPairs⟩ := performAll_evolves updater [] operations session
  constructor
  · intro observation hObservation block hBlock
    have hFilled := (hEach observation hObservation).filled (by simp) block hBlock
    exact Block.lawful_of_filled updater.backend hFilled
  · refine hPairs.imp ?_
    intro _ _ hEvolves _ _ hBlock
    exact hEvolves.advances hBlock

end Updater

end ValidityTables
