import ValidityTables.Proofs.StoredRows

/-! # Raw statements and where they run

A raw statement stands before the first header or in the section of one. An update runs each of them
once and in order: those behind a header after the probe of its table and before anything is stored
for its rows, even if the rows come first.
-/

namespace ValidityTables.UpdateFile

variable {σ : Type} {backend : Backend σ} {settings : BlockSettings}

def rawStatements (items : List Item) : List String :=
  items.filterMap fun
    | .statement text => some text
    | .header _ | .row _ _ | .stop _ => none

theorem rawStatements_cons (item : Item) (rest : List Item) :
    rawStatements (item :: rest) = match item with
      | .statement text => text :: rawStatements rest
      | .header _ | .row _ _ | .stop _ => rawStatements rest := by
  cases item <;> rfl

/-- A raw statement stands before the first header or in one section. -/
theorem rawStatements_eq (items : List Item) :
    rawStatements items =
      leadingStatements items ++ (sections items).flatMap Section.statements := by
  induction items with
  | nil => rfl
  | cons item rest ih =>
    rw [rawStatements_cons]
    cases item with
    | statement text => exact congrArg (List.cons text) ih
    | header line => exact ih
    | row n line => exact ih
    | stop e => exact ih

theorem Amounts.terminated_of_mem {n : Nat} {lines : List String} {items : List Item}
    (h : Amounts n lines items) {text : String} (hMem : text ∈ rawStatements items) :
    terminated text = true := by
  induction h with
  | done => cases hMem
  | skipped _ _ ih => exact ih hMem
  | header _ _ ih => exact ih hMem
  | row _ _ ih => exact ih hMem
  | statement _ hCompletes _ ih =>
    obtain rfl | hRest := List.mem_cons.mp hMem
    · exact hCompletes.last
    · exact ih hRest

theorem Reached.close_sqlStatements {reached next : Reached} {session : Session σ}
    (h : (reached.close backend session).1 = .ok next) :
    next.sqlStatements = reached.sqlStatements := by
  unfold Reached.close at h
  cases hBlock : reached.block with
  | none =>
    rw [hBlock] at h
    cases h
    rfl
  | some block =>
    simp only [hBlock] at h
    rcases hApply : block.apply backend session with ⟨⟨_ | _, _⟩, _⟩ <;>
      rw [hApply] at h <;> cases h
    rfl

theorem Reached.start_sqlStatements {reached next : Reached} {line : String}
    {session : Session σ} (h : (reached.start backend settings line session).1 = .ok next) :
    next.sqlStatements = reached.sqlStatements := by
  rw [Reached.start, Action.bind_apply] at h
  rcases hBegin : Block.begin backend settings line session with ⟨_ | block, begun⟩
  · rw [hBegin] at h
    cases h
  · simp only [hBegin] at h
    cases hRefusal : block.stage.refusal? with
    | some reason => rw [hRefusal] at h; cases h
    | none => rw [hRefusal] at h; cases h; rfl

theorem Reached.execute_sqlStatements {reached next : Reached} {text : String}
    {session : Session σ} (h : (reached.execute backend text session).1 = .ok next) :
    next.sqlStatements = reached.sqlStatements + 1 := by
  rw [Reached.execute, Action.bind_apply] at h
  rcases hQuery : discard (backend.query text) session with ⟨_ | _, _⟩ <;> rw [hQuery] at h <;>
    cases h
  rfl

theorem perform_counts {item : Item} {reached next : Reached} {session : Session σ}
    (h : (item.perform backend settings reached session).1 = .ok next) :
    next.sqlStatements = reached.sqlStatements + (rawStatements [item]).length := by
  cases item with
  | statement text => exact Reached.execute_sqlStatements h
  | header line =>
    rw [Item.perform, Action.bind_apply] at h
    rcases hClose : reached.close backend session with ⟨_ | closed, middle⟩
    · rw [hClose] at h
      cases h
    · rw [hClose] at h
      have hClosed : closed.sqlStatements = reached.sqlStatements :=
        Reached.close_sqlStatements (congrArg Prod.fst hClose)
      exact (Reached.start_sqlStatements h).trans hClosed
  | row n line =>
    simp only [Item.perform, Action.mk_pure_apply, Reached.addRow] at h
    cases hBlock : reached.block with
    | none => rw [hBlock] at h; cases h
    | some block =>
      simp only [hBlock] at h
      cases hAdded : block.addRow line with
      | error e => rw [hAdded] at h; cases h
      | ok added => rw [hAdded] at h; cases h; rfl
  | stop e => cases h

theorem through_counts {items : List Item} {reached next : Reached} {session after : Session σ}
    (h : through backend settings reached items session = (.ok next, after)) :
    next.sqlStatements = reached.sqlStatements + (rawStatements items).length := by
  induction items generalizing reached session with
  | nil =>
    cases h
    rfl
  | cons item rest ih =>
    rw [through_cons] at h
    rcases hItem : item.perform backend settings reached session with ⟨_ | middle, performed⟩
    · rw [hItem] at h
      cases h
    · rw [hItem] at h
      have hCount := perform_counts (congrArg Prod.fst hItem)
      have hSplit : rawStatements (item :: rest) = rawStatements [item] ++ rawStatements rest :=
        List.filterMap_append (l := [item])
      rw [ih h, hCount, hSplit, List.length_append, Nat.add_assoc]

/-- An update that succeeds has counted the raw statements of its file. -/
theorem apply_counts {lines : List SourceLine} {session : Session σ} {report : ApplyReport}
    (h : (UpdateFile.apply backend settings lines session).1 = .ok report) :
    report.sqlStatements = (rawStatements (items lines)).length := by
  rw [apply_eq_through, Action.bind_apply] at h
  rcases hThrough : through backend settings {} (items lines) session with ⟨_ | reached, middle⟩
  · rw [hThrough] at h
    cases h
  · have hCount := through_counts hThrough
    simp only [hThrough, Reached.finish_apply] at h
    cases hClose : (reached.close backend middle).1 with
    | error e => rw [hClose] at h; cases h
    | ok closed =>
      rw [hClose] at h
      cases h
      rw [Reached.report, Reached.close_sqlStatements hClose, hCount]
      exact Nat.zero_add _

/-- An update that succeeds has run the raw statements of its file, each once and in order. Those of
a section come between the probe of its table and the application of its block, whichever rows they
stand behind. -/
theorem apply_rawStatements {lines : List SourceLine} {session : Session σ} {report : ApplyReport}
    (h : (UpdateFile.apply backend settings lines session).1 = .ok report) :
    ∃ (texts : List String) (leading : List Event) (runs : List SectionRun),
      lines = texts.map .ok ∧
      Amounts 0 texts (items lines) ∧
      (∀ text ∈ rawStatements (items lines), terminated text = true) ∧
      report.sqlStatements = (rawStatements (items lines)).length ∧
      rawStatements (items lines) =
        leadingStatements (items lines) ++ (sections (items lines)).flatMap Section.statements ∧
      Succeeds (leadingStatements (items lines)) leading ∧
      runs.map SectionRun.part = sections (items lines) ∧
      (∀ run ∈ runs, run.Complete settings backend) ∧
      Realizes backend.attempts (leading ++ runs.flatMap SectionRun.events)
        (calls backend settings lines session) := by
  obtain ⟨texts, rfl⟩ := readable_of_applyFrom h
  have hCount := apply_counts h
  have hAmounts : Amounts 0 texts (items (texts.map .ok)) :=
    amounts_itemsFrom texts.length (Nat.le_refl _) (apply_not_stop h)
  obtain ⟨events, hProceeds, hRealizes, -⟩ :=
    apply_proceeds backend settings (texts.map .ok) session
  rw [apply_eq_run] at h
  obtain ⟨hOutcome, -⟩ := Stopped.result_ok h
  obtain ⟨leading, later, rfl, -, hLeading, hUpdates⟩ := hProceeds.updates hOutcome
  obtain ⟨runs, hParts, -, rfl, hComplete⟩ := hUpdates.complete hOutcome
  exact ⟨texts, leading, runs, rfl, hAmounts, fun text => hAmounts.terminated_of_mem, hCount,
    rawStatements_eq _, hLeading, hParts, fun run hMem => (hComplete run hMem).ofRecorded,
    hRealizes⟩

/-- A file with a raw statement behind a row, which goes on in what looks like a comment. -/
def interleavedLines : List SourceLine :=
  [commentedHeader, "1,2", " SQL\tselect", "# 1;", "3,4"].map .ok

theorem apply_rawStatements_interleaved :
    rawStatements (items interleavedLines) = ["select# 1;"] ∧
    (UpdateFile.apply Script.backend { scope := .locally } interleavedLines
      { world := Script.steady }).1.toOption.map (fun report => report.blocks.map (·.rows)) =
      some [2] ∧
    ∃ (texts : List String) (leading : List Event) (runs : List SectionRun),
      interleavedLines = texts.map .ok ∧ Amounts 0 texts (items interleavedLines) ∧
      runs.map SectionRun.part = sections (items interleavedLines) ∧
      Realizes Script.backend.attempts (leading ++ runs.flatMap SectionRun.events)
        (calls Script.backend { scope := .locally } interleavedLines
          { world := Script.steady }) := by
  have hRows : (UpdateFile.apply Script.backend { scope := .locally } interleavedLines
      { world := Script.steady }).1.toOption.map (fun report => report.blocks.map (·.rows)) =
      some [2] := by decide +kernel
  refine ⟨by decide +kernel, hRows, ?_⟩
  cases hApply : (UpdateFile.apply Script.backend { scope := .locally } interleavedLines
      { world := Script.steady }).1 with
  | error e => rw [hApply] at hRows; cases hRows
  | ok report =>
    obtain ⟨texts, leading, runs, hTexts, hAmounts, -, -, -, -, hParts, -, hRealizes⟩ :=
      apply_rawStatements hApply
    exact ⟨texts, leading, runs, hTexts, hAmounts, hParts, hRealizes⟩

end ValidityTables.UpdateFile
