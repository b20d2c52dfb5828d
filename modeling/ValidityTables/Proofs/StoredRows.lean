import ValidityTables.Proofs.LineTexts
import ValidityTables.Proofs.RowTexts
import ValidityTables.Proofs.Sections

/-! # The rows of a section reach the store

The statements that insert rows carry the tuples of the rows in consecutive groups, and a block
collects exactly the rows of its section. So an update that succeeds has run, for each section,
statements with all its rows in order, and nothing else was inserted.
-/

namespace ValidityTables.UpdateFile

theorem collected_toList (convert : Bool) (rows : Rows) (lines : List String) :
    (collected convert rows lines).toList =
      rows.toList ++ lines.map fun line => (Rows.stored convert line).1 := by
  induction lines generalizing rows with
  | nil => simp [collected]
  | cons line rest ih =>
    have h := ih (rows.push convert line)
    simpa [collected, Rows.push, Rows.toList] using h

theorem collected_converted (convert : Bool) (rows : Rows) (lines : List String) :
    (collected convert rows lines).converted =
      rows.converted + (lines.map fun line => (Rows.stored convert line).2).sum := by
  induction lines generalizing rows with
  | nil => simp [collected]
  | cons line rest ih =>
    have h := ih (rows.push convert line)
    simp only [List.map_cons, List.sum_cons, ← Nat.add_assoc]
    exact h

theorem collected_size (convert : Bool) (rows : Rows) (lines : List String) :
    (collected convert rows lines).size = rows.size + lines.length := by
  have h := congrArg List.length (collected_toList convert rows lines)
  simpa [Rows.toList, Rows.size] using h

/-- The texts that are stored for the rows of a section. -/
def Section.texts (settings : BlockSettings) (part : Section) : List String :=
  part.rows.map fun line => (Rows.stored settings.convertUnsigned line).1

theorem Section.texts_storedAs (settings : BlockSettings) (part : Section) :
    List.Forall₂ (fun line text => ∃ count, StoredAs line settings.convertUnsigned text count)
      part.rows (part.texts settings) := by
  rw [texts, List.forall₂_map_right_iff, List.forall₂_same]
  exact fun line _ => ⟨_, storedAs_iff.mpr rfl⟩

/-- What an update does with a section whose block it applies. -/
structure SectionRun where
  part : Section
  /-- What is stored for each row, and how many of its fields were converted. -/
  stored : List (String × Nat)
  header : Header
  seqno : UInt32
  inserted : String
  createdValidityTable : Bool
  /-- The texts that each statement inserts, with their places in the section. -/
  groups : List (List (String × Nat))
  /-- The probe of the table. -/
  probing : List Event
  /-- The raw statements between the header and the end of the section. -/
  statements : List Event
  /-- Making sure of the table of validity rows. -/
  opening : List Event
  /-- Acquiring the sequence number. -/
  number : List Event
  /-- Inserting the rows and the validity row. -/
  storing : List Event

namespace SectionRun

variable (settings : BlockSettings) (run : SectionRun)

def events : List Event :=
  run.probing ++ run.statements ++
    .clock run.inserted :: (run.opening ++ run.number ++ run.storing)

def report : BlockReport where
  table := run.header.table
  seqno := run.seqno
  rows := run.part.rows.length
  insertStatements := run.groups.length
  convertedUnsigned := (run.stored.map Prod.snd).sum
  createdValidityTable := run.createdValidityTable

/-- The section was applied: its rows were inserted under the acquired number, all of them once and
in order, and the validity row after them. -/
structure Complete {σ : Type} (backend : Backend σ) : Prop where
  header : Header.parse run.part.header = .ok run.header
  rows : run.part.rows ≠ []
  stored : List.Forall₂
    (fun line (text, count) => StoredAs line settings.convertUnsigned text count)
    run.part.rows run.stored
  probing : ∃ probe, backend.Asks run.header.table probe ∧ Probes probe run.probing (.ok true)
  statements : Succeeds run.part.statements run.statements
  opening : ∃ probe, backend.Asks (run.header.table ++ "VLD") probe ∧
    Ensures backend.mode probe (Written.creation backend.mode.creating run.header)
      run.opening (.ok run.createdValidityTable)
  number : Acquires run.header.table settings.scope backend.mode run.number (.ok run.seqno)
  groups : Statement.Divides (run.stored.map Prod.fst).zipIdx run.groups
  storing : Succeeds (Written.storing run.header run.seqno run.inserted run.groups) run.storing

theorem Complete.ofRecorded {settings : BlockSettings} {run : SectionRun} {σ : Type}
    {backend : Backend σ} (h : run.Complete settings backend.recorded) :
    run.Complete settings backend := by
  obtain ⟨probe, ⟨world, hProbe⟩, hProbes⟩ := h.probing
  obtain ⟨check, ⟨later, hCheck⟩, hEnsures⟩ := h.opening
  exact { h with
    probing := ⟨probe, ⟨world.world, hProbe⟩, hProbes⟩
    opening := ⟨check, ⟨later.world, hCheck⟩, hEnsures⟩ }

end SectionRun

section Complete

variable {σ : Type} {backend : Backend σ} {settings : BlockSettings}

/-- A section whose block was applied has a complete run. -/
theorem complete_of_closes {part : Section} {header : Header} {probing closing : List Event}
    {report : BlockReport} (hBegins : Begins backend part.header probing (.ok header))
    (hCloses : Closes backend settings header (collected settings.convertUnsigned {} part.rows)
      part.statements closing (.ok report)) :
    ∃ run : SectionRun, run.part = part ∧ run.events = probing ++ closing ∧
      run.report = report ∧ run.Complete settings backend := by
  obtain _ | _ | _ | _ | ⟨hParse, hAsks, hProbes, -⟩ := hBegins
  obtain _ | _ |
    @⟨before, _, _, inserted, _, _, hBefore, hRows, hAsksValidity, hApplication⟩ := hCloses
  obtain _ | _ | _ |
    @⟨opening, number, storing, created, seqno, hEnsures, hAcquires, hStores⟩ := hApplication
  obtain hStoring | _ := hStores
  let stored := part.rows.map (Rows.stored settings.convertUnsigned)
  have hList : (collected settings.convertUnsigned {} part.rows).toList = stored.map Prod.fst := by
    rw [collected_toList, List.map_map]
    rfl
  obtain ⟨groups, hDivides, -, hInserts⟩ := Statement.insertRows_divides header.table seqno
    (collected settings.convertUnsigned {} part.rows).toList settings.maxValuesBytes
  rw [storingStatements, hInserts, Written.insertValidityRow_eq] at hStoring
  rw [backend.createKeyword_eq] at hEnsures
  refine ⟨{
    part, stored, header, seqno, inserted, createdValidityTable := created, groups
    probing, statements := before, opening, number, storing }, rfl, ?_, ?_, ?_⟩
  · simp [SectionRun.events]
  · simp [SectionRun.report, storedReport, hInserts, collected_size, collected_converted, stored]
    exact ⟨rfl, rfl⟩
  · exact {
      header := hParse
      rows := by
        intro hNone
        change part.rows = [] at hNone
        simp [hNone, collected, Rows.isEmpty] at hRows
      stored := forall₂_storedAs_iff.mpr rfl
      probing := ⟨_, hAsks, hProbes⟩
      statements := hBefore
      opening := ⟨_, hAsksValidity, hEnsures⟩
      number := hAcquires
      groups := hList ▸ hDivides
      storing := hStoring }

theorem Updates.complete {parts : List Section} {reports : List BlockReport} {events : List Event}
    {outcome : Except UpdateError Unit} (h : Updates backend settings parts reports events outcome)
    (hOutcome : outcome = .ok ()) :
    ∃ runs : List SectionRun, runs.map SectionRun.part = parts ∧
      runs.map (SectionRun.report) = reports ∧ runs.flatMap SectionRun.events = events ∧
      ∀ run ∈ runs, run.Complete settings backend := by
  induction h with
  | done => exact ⟨[], rfl, rfl, rfl, by simp⟩
  | refused | failed => cases hOutcome
  | applied hBegins hCloses _ ih =>
    obtain ⟨run, hPart, hEvents, hReport, hComplete⟩ := complete_of_closes hBegins hCloses
    obtain ⟨runs, hParts, hReports, hLater, hRuns⟩ := ih hOutcome
    refine ⟨run :: runs, by rw [List.map_cons, hPart, hParts],
      by rw [List.map_cons, hReport, hReports], by rw [List.flatMap_cons, hEvents, hLater], ?_⟩
    simpa [hComplete] using hRuns

theorem readable_of_applyFrom {progress : Progress} {lines : List SourceLine}
    {session : Session σ} {report : ApplyReport}
    (h : (applyFrom backend settings progress lines session).1 = .ok report) :
    ∃ texts : List String, lines = texts.map .ok := by
  induction lines generalizing progress session with
  | nil => exact ⟨[], rfl⟩
  | cons line rest ih =>
    cases line with
    | error fault => cases h
    | ok text =>
      rw [applyFrom, Action.bind_apply] at h
      rcases hTake : takeLine backend settings
        { progress with lineNumber := progress.lineNumber + 1 } text session with ⟨_ | next, middle⟩
      · rw [hTake] at h
        cases h
      · rw [hTake] at h
        obtain ⟨texts, rfl⟩ := ih h
        exact ⟨text :: texts, rfl⟩

/-- An update that succeeds has stored the rows of every section, completely and in order, and its
report says so. Its calls are those of the sections one after another. -/
theorem apply_complete {lines : List SourceLine} {session : Session σ} {report : ApplyReport}
    (h : (UpdateFile.apply backend settings lines session).1 = .ok report) :
    ∃ (texts : List String) (leading : List Event) (runs : List SectionRun),
      lines = texts.map .ok ∧
      Amounts 0 texts (items lines) ∧
      leadingRows (items lines) = [] ∧
      Succeeds (leadingStatements (items lines)) leading ∧
      runs.map SectionRun.part = sections (items lines) ∧
      report.blocks = runs.map SectionRun.report ∧
      (∀ run ∈ runs, run.Complete settings backend) ∧
      Realizes backend.attempts (leading ++ runs.flatMap SectionRun.events)
        (calls backend settings lines session) := by
  obtain ⟨texts, rfl⟩ := readable_of_applyFrom h
  have hAmounts : Amounts 0 texts (items (texts.map .ok)) :=
    amounts_itemsFrom texts.length (Nat.le_refl _) (apply_not_stop h)
  obtain ⟨events, hProceeds, hRealizes, -⟩ :=
    apply_proceeds backend settings (texts.map .ok) session
  rw [apply_eq_run] at h
  obtain ⟨hOutcome, hReport⟩ := Stopped.result_ok h
  obtain ⟨leading, later, rfl, hRows, hLeading, hUpdates⟩ := hProceeds.updates hOutcome
  obtain ⟨runs, hParts, hReports, rfl, hComplete⟩ := hUpdates.complete hOutcome
  exact ⟨texts, leading, runs, rfl, hAmounts, hRows, hLeading, hParts,
    hReport.trans hReports.symm, fun run hMem => (hComplete run hMem).ofRecorded, hRealizes⟩

end Complete

def commentedHeader : String :=
  "BEGIN_TABLE DEMO '2001-01-01 00:00:00' '2002-01-01 00:00:00' 1 '2001-01-01 00:00:00'"

/-- A file with blanks at the ends of its rows, a comment between them and a field above the signed
range. -/
def paddedLines : List SourceLine :=
  [commentedHeader, "2288517136, x \t", "# 3,4", "  5,6\r"].map .ok

theorem apply_complete_padded :
    let settings : BlockSettings := { scope := .locally, convertUnsigned := true }
    let session : Session Script := { world := Script.steady }
    let report : ApplyReport := {
      sqlStatements := 0
      blocks := [{
        table := "DEMO", seqno := 5, rows := 2, insertStatements := 1, convertedUnsigned := 1
        createdValidityTable := false }] }
    (UpdateFile.apply Script.backend settings paddedLines session).1 = .ok report ∧
    calls Script.backend settings paddedLines session =
      [.execute "describe DEMO" (.ok {}), .clock "2020-01-01 00:00:00",
        .execute "describe DEMOVLD" (.ok {}), .allocate "DEMO" .locally (.ok 5),
        .execute "DELETE FROM DEMO WHERE SEQNO=5" (.ok {}),
        .execute "DELETE FROM DEMOVLD WHERE SEQNO=5" (.ok {}),
        .execute "INSERT INTO DEMO VALUES (5,1,-2006450160, x),(5,2,  5,6);" (.ok {}),
        .execute ("INSERT INTO DEMOVLD VALUES (5, '2001-01-01 00:00:00', " ++
          "'2002-01-01 00:00:00', '1', '1', 0, 1, '2001-01-01 00:00:00', " ++
          "'2020-01-01 00:00:00');") (.ok {})] ∧
    ∃ run : SectionRun, sections (items paddedLines) = [run.part] ∧
      run.Complete settings Script.backend ∧ report.blocks = [run.report] ∧
      run.part.rows = ["2288517136, x \t", "  5,6\r"] ∧
      run.stored = [("-2006450160, x", 1), ("  5,6", 0)] := by
  intro settings session report
  have hApply : (UpdateFile.apply Script.backend settings paddedLines session).1 = .ok report := by
    decide +kernel
  refine ⟨hApply, by decide +kernel, ?_⟩
  have hSections : sections (items paddedLines) =
      [⟨commentedHeader, [], ["2288517136, x \t", "  5,6\r"]⟩] := by decide +kernel
  have hStored : ["2288517136, x \t", "  5,6\r"].map (Rows.stored settings.convertUnsigned) =
      [("-2006450160, x", 1), ("  5,6", 0)] := by decide +kernel
  clear_value session
  obtain ⟨-, -, runs, -, -, -, -, hParts, hReports, hComplete, -⟩ := apply_complete hApply
  rw [hSections] at hParts
  obtain ⟨run, rfl, hPart⟩ := List.map_eq_singleton_iff.mp hParts
  have hRun := hComplete run (List.mem_singleton_self run)
  refine ⟨run, by rw [hSections, hPart], hRun, hReports, by rw [hPart], ?_⟩
  have hRows := forall₂_storedAs_iff.mp hRun.stored
  rw [hRows, hPart, hStored]

end ValidityTables.UpdateFile
