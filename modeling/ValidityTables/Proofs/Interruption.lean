import ValidityTables.Proofs.FileSteps
import ValidityTables.Proofs.StoredRows

/-! # Updates that break off

Between two items of a file the sections before the last one are stored completely, and of the last
one nothing but its raw statements was run. So an update that fails anywhere but in the application
of a block leaves every closed section stored, and of the open one it has stored nothing.
-/

namespace ValidityTables

variable {σ : Type}

theorem Succeeds.snoc {statements : List String} {events : List Event}
    (h : Succeeds statements events) (sql : String) (lines : List String) :
    Succeeds (statements ++ [sql]) (events ++ [.statement sql (.ok lines)]) :=
  List.rel_append h (.cons ⟨lines, rfl⟩ .nil)

namespace UpdateFile

/-- The section with what further items add to it. -/
def Section.extend (part : Section) (more : List Item) : Section where
  header := part.header
  statements := part.statements ++ leadingStatements more
  rows := part.rows ++ leadingRows more

/-- The block of a section, with all its rows. -/
def Section.block (settings : BlockSettings) (part : Section) (header : Header) : Block where
  settings
  stage := .ready header (collected settings.convertUnsigned {} part.rows)

theorem leading_append {items : List Item} (h : sections items = []) (more : List Item) :
    leadingRows (items ++ more) = leadingRows items ++ leadingRows more ∧
      leadingStatements (items ++ more) = leadingStatements items ++ leadingStatements more ∧
      sections (items ++ more) = sections more := by
  induction items with
  | nil => exact ⟨rfl, rfl, rfl⟩
  | cons item rest ih =>
    cases item with
    | header line => cases h
    | statement | row | stop =>
      obtain ⟨hRows, hStatements, hSections⟩ := ih h
      simp [leadingRows, leadingStatements, sections, hRows, hStatements, hSections]

/-- Further items add to the last section, and the sections they begin come after it. -/
theorem sections_append {items : List Item} {done : List Section} {part : Section}
    (h : sections items = done ++ [part]) (more : List Item) :
    leadingRows (items ++ more) = leadingRows items ∧
      leadingStatements (items ++ more) = leadingStatements items ∧
      sections (items ++ more) = done ++ part.extend more :: sections more := by
  induction items generalizing done with
  | nil => simp [sections] at h
  | cons item rest ih =>
    cases item with
    | header line =>
      refine ⟨rfl, rfl, ?_⟩
      simp only [List.cons_append, sections] at h ⊢
      obtain _ | ⟨first, done⟩ := done
      · obtain ⟨rfl, hRest⟩ := List.cons.inj h
        obtain ⟨hRows, hStatements, hSections⟩ := leading_append hRest more
        simp [Section.extend, hRows, hStatements, hSections]
      · obtain ⟨rfl, hRest⟩ := List.cons.inj h
        obtain ⟨hRows, hStatements, hSections⟩ := ih hRest
        simp [hRows, hStatements, hSections]
    | statement | row | stop =>
      obtain ⟨hRows, hStatements, hSections⟩ := ih h
      simp [leadingRows, leadingStatements, sections, hRows, hStatements, hSections]

theorem sections_header (items : List Item) (line : String) :
    leadingRows (items ++ [.header line]) = leadingRows items ∧
      leadingStatements (items ++ [.header line]) = leadingStatements items ∧
      sections (items ++ [.header line]) =
        sections items ++ [{ header := line, statements := [], rows := [] }] := by
  induction items with
  | nil => exact ⟨rfl, rfl, rfl⟩
  | cons item rest ih =>
    obtain ⟨hRows, hStatements, hSections⟩ := ih
    cases item <;>
      simp [leadingRows, leadingStatements, sections, hRows, hStatements, hSections]

/-- The raw statements before the first section were run, and the given sections were stored, one
after another. -/
structure Stored (backend : Backend σ) (settings : BlockSettings) (items : List Item)
    (parts : List Section) (leading : List Event) (runs : List SectionRun) : Prop where
  rows : leadingRows items = []
  statements : Succeeds (leadingStatements items) leading
  parts : runs.map SectionRun.part = parts
  complete : ∀ run ∈ runs, run.Complete settings backend

/-- What an update did up to a place between two items, and which block is open there. -/
inductive Stands (backend : Backend σ) (settings : BlockSettings) (items : List Item) :
    Option Block → List Event → Prop
  | outside {leading : List Event} : sections items = [] →
      Stored backend settings items [] leading [] → Stands backend settings items none leading
  | inside {done : List Section} {part : Section} {leading probing ran : List Event}
      {runs : List SectionRun} {header : Header} : sections items = done ++ [part] →
      Stored backend settings items done leading runs →
      Begins backend part.header probing (.ok header) → Succeeds part.statements ran →
      Stands backend settings items (some (part.block settings header))
        (leading ++ runs.flatMap SectionRun.events ++ (probing ++ ran))

/-- An update that breaks off at an item, which is not in the application of a block. -/
inductive BreaksOff (backend : Backend σ) (settings : BlockSettings) (done : List Item) :
    Item → UpdateError → List Event → Prop
  | stop {block : Option Block} {events : List Event} {e : UpdateError} :
      Stands backend settings done block events →
      BreaksOff backend settings done (.stop e) e events
  | row {events : List Event} {n : Nat} {line : String} :
      Stands backend settings done none events →
      BreaksOff backend settings done (.row n line) (.rowOutsideBlock n) events
  | statement {block : Option Block} {events : List Event} {text : String} {e : UpdateError} :
      Stands backend settings done block events →
      BreaksOff backend settings done (.statement text) e (events ++ [.statement text (.error e)])
  | header {leading probing : List Event} {runs : List SectionRun} {line : String}
      {e : UpdateError} : Stored backend settings done (sections done) leading runs →
      Begins backend line probing (.error e) →
      BreaksOff backend settings done (.header line) e
        (leading ++ runs.flatMap SectionRun.events ++ probing)

/-- An event of reading a file: a raw statement of the file, or the probe of a table. -/
def OnlyReads (backend : Backend σ) (items : List Item) (event : Event) : Prop :=
  ∃ sql outcome, event = .statement sql outcome ∧
    (.statement sql ∈ items ∨ ∃ table, backend.Asks table (some sql))

theorem Closes.after {backend : Backend σ} {settings : BlockSettings} {header : Header}
    {rows : Rows} {statements : List String} {ran events : List Event}
    {result : Except UpdateError BlockReport}
    (h : Closes backend settings header rows [] events result) (hRan : Succeeds statements ran) :
    Closes backend settings header rows statements (ran ++ events) result := by
  induction hRan with
  | nil => exact h
  | @cons sql _ _ _ hEvent _ ih =>
    obtain ⟨lines, rfl⟩ := hEvent
    exact ih.cons sql lines

section Steps

variable {backend : Backend σ} {settings : BlockSettings} {items : List Item}

/-- What is stored before the last section does not depend on the items that are added to it. -/
theorem Stored.extend {done : List Section} {part : Section} {leading : List Event}
    {runs : List SectionRun} (h : Stored backend settings items done leading runs)
    (hSections : sections items = done ++ [part]) (more : List Item) :
    Stored backend settings (items ++ more) done leading runs := by
  obtain ⟨hRows, hStatements, -⟩ := sections_append hSections more
  exact { h with rows := hRows.trans h.rows, statements := hStatements ▸ h.statements }

theorem Stands.statement {block : Option Block} {events : List Event}
    (h : Stands backend settings items block events) (text : String) (lines : List String) :
    Stands backend settings (items ++ [.statement text]) block
      (events ++ [.statement text (.ok lines)]) := by
  cases h with
  | outside hNone hStored =>
    obtain ⟨hRows, hStatements, hSections⟩ := leading_append hNone [.statement text]
    refine .outside (hSections.trans rfl) {
      rows := ?_
      statements := ?_
      parts := rfl
      complete := nofun }
    · rw [hRows, hStored.rows]
      rfl
    · rw [hStatements]
      exact Succeeds.snoc hStored.statements text lines
  | @inside done part leading probing ran runs header hSections hStored hBegins hRan =>
    have hInside : Stands backend settings (items ++ [.statement text])
        (some ((part.extend [.statement text]).block settings header))
        (leading ++ runs.flatMap SectionRun.events ++
          (probing ++ (ran ++ [.statement text (.ok lines)]))) :=
      .inside (sections_append hSections [.statement text]).2.2 (hStored.extend hSections _) hBegins
        (Succeeds.snoc hRan text lines)
    simpa [Section.extend, Section.block, leadingRows] using hInside

theorem Stands.row {header : Header} {rows : Rows} {events : List Event}
    (h : Stands backend settings items (some { settings, stage := .ready header rows }) events)
    (n : Nat) (line : String) :
    Stands backend settings (items ++ [.row n line])
      (some { settings, stage := .ready header (rows.push settings.convertUnsigned line) })
      events := by
  cases h with
  | @inside done part leading probing ran runs header hSections hStored hBegins hRan =>
    have hInside : Stands backend settings (items ++ [.row n line])
        (some ((part.extend [.row n line]).block settings header))
        (leading ++ runs.flatMap SectionRun.events ++ (probing ++ ran)) :=
      .inside (sections_append hSections [.row n line]).2.2 (hStored.extend hSections _) hBegins
        (by simpa [Section.extend, leadingStatements] using hRan)
    simpa [Section.extend, Section.block, leadingRows, collected] using hInside

theorem Stands.header {leading probing : List Event} {runs : List SectionRun} {line : String}
    {header : Header} (h : Stored backend settings items (sections items) leading runs)
    (hBegins : Begins backend line probing (.ok header)) :
    Stands backend settings (items ++ [.header line])
      (some { settings, stage := .ready header {} })
      (leading ++ runs.flatMap SectionRun.events ++ probing) := by
  obtain ⟨hRows, hStatements, hSections⟩ := sections_header items line
  have hInside := Stands.inside hSections
    { h with rows := hRows.trans h.rows, statements := hStatements ▸ h.statements } hBegins .nil
  simpa [Section.block, collected] using hInside

/-- Closing the open block stores its section. -/
theorem Stands.close {reached next : Reached} {events : List Event} {session after : Session σ}
    (h : Stands backend settings items reached.block events)
    (hClose : reached.close backend session = (.ok next, after)) :
    ∃ closing leading runs, backend.Traces session.world closing after.world ∧
      Stored backend settings items (sections items) leading runs ∧
      events ++ closing = leading ++ runs.flatMap SectionRun.events := by
  generalize hBlock : reached.block = block at h
  cases h with
  | outside hNone hStored =>
    rw [Reached.close, hBlock] at hClose
    cases hClose
    exact ⟨[], _, [], .nil _, hNone ▸ hStored, by simp⟩
  | @inside done part leading probing ran runs header hSections hStored hBegins hRan =>
    obtain ⟨closing, closed, hTraces, hCloses, hNext⟩ := Reached.close_traces hBlock hClose
    cases closed with
    | error e => cases hNext
    | ok report =>
      obtain ⟨run, hPart, hEvents, -, hComplete⟩ :=
        complete_of_closes hBegins (hCloses.after hRan)
      refine ⟨closing, leading, runs ++ [run], hTraces, {
        rows := hStored.rows
        statements := hStored.statements
        parts := by rw [hSections, List.map_append, hStored.parts, List.map_singleton, hPart]
        complete := ?_ }, ?_⟩
      · intro other hMem
        obtain hOther | hOther := List.mem_append.mp hMem
        · exact hStored.complete other hOther
        · obtain rfl := List.mem_singleton.mp hOther
          exact hComplete
      · simp [hEvents]

/-- What an item that is gone through adds. -/
theorem Stands.perform {reached next : Reached} {events : List Event} {item : Item}
    {session after : Session σ} (h : Stands backend settings items reached.block events)
    (hPerform : item.perform backend settings reached session = (.ok next, after)) :
    ∃ more, backend.Traces session.world more after.world ∧
      Stands backend settings (items ++ [item]) next.block (events ++ more) := by
  cases item with
  | statement text =>
    obtain ⟨outcome, hTraces, hNext⟩ := Reached.execute_traces hPerform
    cases outcome with
    | error e => cases hNext
    | ok lines =>
      cases hNext
      exact ⟨_, hTraces, h.statement text lines⟩
  | header line =>
    rw [Item.perform, Action.bind_apply] at hPerform
    rcases hClose : reached.close backend session with ⟨_ | closed, middle⟩ <;>
      rw [hClose] at hPerform
    · cases hPerform
    · obtain ⟨closing, leading, runs, hClosing, hStored, hEvents⟩ := h.close hClose
      obtain ⟨probing, begun, hProbing, hBegins, hNext⟩ := Reached.start_traces hPerform
      cases begun with
      | error e => cases hNext
      | ok header =>
        cases hNext
        refine ⟨closing ++ probing, hClosing.append hProbing, ?_⟩
        rw [← List.append_assoc, hEvents]
        exact .header hStored hBegins
  | row n line =>
    rw [Item.perform, Action.mk_pure_apply] at hPerform
    refine ⟨[], (Prod.mk.inj hPerform).2 ▸ .nil _, ?_⟩
    have hAdd := (Prod.mk.inj hPerform).1
    rw [List.append_nil]
    generalize hBlock : reached.block = block at h
    cases block with
    | none =>
      rw [Reached.addRow, hBlock] at hAdd
      cases hAdd
    | some block =>
      have hReady := h
      cases hReady with
      | inside =>
        rw [Reached.addRow, hBlock] at hAdd
        cases hAdd
        exact h.row n line
  | stop e => cases hPerform

/-- An item that fails breaks the update off, or the application of the open block failed. -/
theorem Stands.failing {reached : Reached} {events : List Event} {item : Item} {e : UpdateError}
    {session after : Session σ} (h : Stands backend settings items reached.block events)
    (hFails : item.perform backend settings reached session = (.error e, after)) :
    (∃ line, item = .header line ∧ (reached.close backend session).1 = .error e) ∨
      ∃ more, backend.Traces session.world more after.world ∧
        BreaksOff backend settings items item e (events ++ more) := by
  cases item with
  | statement text =>
    obtain ⟨outcome, hTraces, hNext⟩ := Reached.execute_traces hFails
    cases outcome with
    | ok lines => cases hNext
    | error e =>
      cases hNext
      exact .inr ⟨_, hTraces, .statement h⟩
  | header line =>
    rw [Item.perform, Action.bind_apply] at hFails
    rcases hClose : reached.close backend session with ⟨_ | closed, middle⟩ <;>
      rw [hClose] at hFails
    · cases hFails
      exact .inl ⟨line, rfl, rfl⟩
    · obtain ⟨closing, leading, runs, hClosing, hStored, hEvents⟩ := h.close hClose
      obtain ⟨probing, begun, hProbing, hBegins, hNext⟩ := Reached.start_traces hFails
      cases begun with
      | ok header => cases hNext
      | error e =>
        cases hNext
        refine .inr ⟨closing ++ probing, hClosing.append hProbing, ?_⟩
        rw [← List.append_assoc, hEvents]
        exact .header hStored hBegins
  | row n line =>
    rw [Item.perform, Action.mk_pure_apply] at hFails
    refine .inr ⟨[], (Prod.mk.inj hFails).2 ▸ .nil _, ?_⟩
    have hAdd := (Prod.mk.inj hFails).1
    rw [List.append_nil]
    generalize hBlock : reached.block = block at h
    cases block with
    | none =>
      rw [Reached.addRow, hBlock] at hAdd
      cases hAdd
      exact .row h
    | some block =>
      cases h with
      | inside =>
        rw [Reached.addRow, hBlock] at hAdd
        cases hAdd
  | stop e =>
    cases hFails
    exact .inr ⟨[], .nil _, by simpa using BreaksOff.stop h⟩

theorem Stands.through {more : List Item} {reached next : Reached} {events : List Event}
    {session after : Session σ} (h : Stands backend settings items reached.block events)
    (hThrough : through backend settings reached more session = (.ok next, after)) :
    ∃ later, backend.Traces session.world later after.world ∧
      Stands backend settings (items ++ more) next.block (events ++ later) := by
  induction more generalizing items reached events session with
  | nil =>
    cases hThrough
    exact ⟨[], .nil _, by simpa using h⟩
  | cons item rest ih =>
    rw [through_cons] at hThrough
    rcases hItem : item.perform backend settings reached session with ⟨_ | performed, middle⟩ <;>
      rw [hItem] at hThrough
    · cases hThrough
    · obtain ⟨first, hFirst, hStands⟩ := h.perform hItem
      obtain ⟨later, hLater, hNext⟩ := ih hStands hThrough
      exact ⟨first ++ later, hFirst.append hLater, by simpa using hNext⟩

theorem Stands.start : Stands backend settings [] none [] :=
  .outside rfl { rows := rfl, statements := .nil, parts := rfl, complete := nofun }

end Steps

section OnlyReads

variable {backend : Backend σ} {settings : BlockSettings} {items : List Item}

theorem reads_ofSucceeds {statements : List String} {events : List Event}
    (h : Succeeds statements events) (hMem : ∀ sql ∈ statements, .statement sql ∈ items) :
    ∀ event ∈ events, OnlyReads backend items event := by
  intro event hEvent
  obtain ⟨sql, hSql, lines, rfl⟩ := h.mem hEvent
  exact ⟨sql, .ok lines, rfl, .inl (hMem sql hSql)⟩

theorem reads_ofBegins {line : String} {events : List Event} {begun : Except UpdateError Header}
    (h : Begins backend line events begun) : ∀ event ∈ events, OnlyReads backend items event := by
  have hProbe {table : String} {probe : Option String} {found : Except UpdateError Bool}
      (hAsks : backend.Asks table probe) (hProbes : Probes probe events found) :
      ∀ event ∈ events, OnlyReads backend items event := by
    intro event hMem
    cases hProbes with
    | trusted => cases hMem
    | present | missing | failed =>
      obtain rfl := List.mem_singleton.mp hMem
      exact ⟨_, _, rfl, .inr ⟨table, hAsks⟩⟩
  cases h with
  | unreadable => nofun
  | unknown _ hAsks hProbes | missing _ hAsks hProbes | misdated _ hAsks hProbes
  | begun _ hAsks hProbes => exact hProbe hAsks hProbes

theorem OnlyReads.mono {event : Event} (h : OnlyReads backend items event) {more : List Item}
    (hMore : items ⊆ more) : OnlyReads backend more event := by
  obtain ⟨sql, outcome, rfl, hMem | hAsks⟩ := h
  · exact ⟨sql, outcome, rfl, .inl (hMore hMem)⟩
  · exact ⟨sql, outcome, rfl, .inr hAsks⟩

/-- The last section is never closed, and the others are. -/
theorem Stands.onlyReads {block : Option Block} {events : List Event}
    (h : Stands backend settings items block events) :
    ∃ leading runs later,
      Stored backend settings items (sections items).dropLast leading runs ∧
      events = leading ++ runs.flatMap SectionRun.events ++ later ∧
      ∀ event ∈ later, OnlyReads backend items event := by
  cases h with
  | outside hNone hStored =>
    refine ⟨events, [], [], ?_, by simp, nofun⟩
    rw [hNone]
    exact hStored
  | @inside done part leading probing ran runs header hSections hStored hBegins hRan =>
    refine ⟨leading, runs, probing ++ ran, ?_, rfl, ?_⟩
    · rw [hSections, List.dropLast_concat]
      exact hStored
    · have hPart : part ∈ sections items := by simp [hSections]
      intro event hMem
      obtain hProbing | hRaw := List.mem_append.mp hMem
      · exact reads_ofBegins hBegins event hProbing
      · exact reads_ofSucceeds hRan (mem_of_mem_section hPart).2 event hRaw

theorem sections_dropLast (items : List Item) {item : Item} (h : ∀ line, item ≠ .header line) :
    (sections (items ++ [item])).dropLast = (sections items).dropLast := by
  have hItem : sections [item] = [] := by
    cases item with
    | header line => exact absurd rfl (h line)
    | statement | row | stop => rfl
  obtain hNone | ⟨done, part, hSections⟩ := (sections items).eq_nil_or_concat
  · rw [(leading_append hNone [item]).2.2, hItem, hNone]
  · rw [List.concat_eq_append] at hSections
    rw [(sections_append hSections [item]).2.2, hItem, hSections]
    simp

/-- Where an update breaks off, the sections whose end was reached are stored, and after them it has
only read. -/
theorem BreaksOff.onlyReads {item : Item} {e : UpdateError} {events : List Event}
    (h : BreaksOff backend settings items item e events) :
    ∃ leading runs later,
      Stored backend settings items (sections (items ++ [item])).dropLast leading runs ∧
      events = leading ++ runs.flatMap SectionRun.events ++ later ∧
      ∀ event ∈ later, OnlyReads backend (items ++ [item]) event := by
  have hStands {block : Option Block} {events : List Event}
      (hStands : Stands backend settings items block events) (more : List Event)
      (hItem : ∀ line, item ≠ .header line)
      (hMore : ∀ event ∈ more, OnlyReads backend (items ++ [item]) event) :
      ∃ leading runs later,
        Stored backend settings items (sections (items ++ [item])).dropLast leading runs ∧
        events ++ more = leading ++ runs.flatMap SectionRun.events ++ later ∧
        ∀ event ∈ later, OnlyReads backend (items ++ [item]) event := by
    obtain ⟨leading, runs, later, hStored, rfl, hReads⟩ := hStands.onlyReads
    rw [sections_dropLast items hItem]
    refine ⟨leading, runs, later ++ more, hStored, List.append_assoc _ _ _, ?_⟩
    intro event hMem
    obtain hLater | hAdded := List.mem_append.mp hMem
    · exact (hReads event hLater).mono (List.subset_append_left items [item])
    · exact hMore event hAdded
  cases h with
  | stop h => simpa using hStands h [] nofun nofun
  | row h => simpa using hStands h [] nofun nofun
  | @statement _ _ text e h =>
    refine hStands h _ nofun fun event hMem => ?_
    obtain rfl := List.mem_singleton.mp hMem
    exact ⟨text, .error e, rfl, .inl (by simp)⟩
  | @header leading probing runs line _ hStored hBegins =>
    refine ⟨leading, runs, probing, ?_, rfl, reads_ofBegins hBegins⟩
    rw [(sections_header items line).2.2, List.dropLast_concat]
    exact hStored

end OnlyReads

section Recorded

variable {backend : Backend σ} {settings : BlockSettings} {items : List Item}

theorem asks_ofRecorded {table : String} {probe : Option String}
    (h : backend.recorded.Asks table probe) : backend.Asks table probe := by
  obtain ⟨world, hProbe⟩ := h
  exact ⟨world.world, hProbe⟩

theorem Begins.ofRecorded {line : String} {events : List Event} {begun : Except UpdateError Header}
    (h : Begins backend.recorded line events begun) : Begins backend line events begun := by
  cases h with
  | unreadable hParse => exact .unreadable hParse
  | unknown hParse hAsks hProbes => exact .unknown hParse (asks_ofRecorded hAsks) hProbes
  | missing hParse hAsks hProbes => exact .missing hParse (asks_ofRecorded hAsks) hProbes
  | misdated hParse hAsks hProbes hDates =>
    exact .misdated hParse (asks_ofRecorded hAsks) hProbes hDates
  | begun hParse hAsks hProbes hDates => exact .begun hParse (asks_ofRecorded hAsks) hProbes hDates

theorem Stored.ofRecorded {parts : List Section} {leading : List Event} {runs : List SectionRun}
    (h : Stored backend.recorded settings items parts leading runs) :
    Stored backend settings items parts leading runs :=
  { h with complete := fun run hMem => (h.complete run hMem).ofRecorded }

theorem Stands.ofRecorded {block : Option Block} {events : List Event}
    (h : Stands backend.recorded settings items block events) :
    Stands backend settings items block events := by
  cases h with
  | outside hNone hStored => exact .outside hNone hStored.ofRecorded
  | inside hSections hStored hBegins hRan =>
    exact .inside hSections hStored.ofRecorded hBegins.ofRecorded hRan

theorem BreaksOff.ofRecorded {item : Item} {e : UpdateError} {events : List Event}
    (h : BreaksOff backend.recorded settings items item e events) :
    BreaksOff backend settings items item e events := by
  cases h with
  | stop hStands => exact .stop hStands.ofRecorded
  | row hStands => exact .row hStands.ofRecorded
  | statement hStands => exact .statement hStands.ofRecorded
  | header hStored hBegins => exact .header hStored.ofRecorded hBegins.ofRecorded

end Recorded

/-- An update that fails in the application of a block, which the end of the file or the next header
closed. -/
structure FailsClosing (backend : Backend σ) (settings : BlockSettings) (lines : List SourceLine)
    (session : Session σ) (e : UpdateError) (done rest : List Item) (reached : Reached)
    (block : Block) (after : Session σ) : Prop where
  split : items lines = done ++ rest
  closing : ∀ item ∈ rest.head?, ∃ line, item = .header line
  passed : through backend settings {} done session = (.ok reached, after)
  isOpen : reached.block = some block
  fails : (block.apply backend after).1.1 = .error e
  code : e.code = .applyFailed ∨ e.code = .emptyBlock

/-- An update that fails elsewhere, with its calls up to there. -/
structure FailsReading (backend : Backend σ) (settings : BlockSettings) (lines : List SourceLine)
    (session : Session σ) (e : UpdateError) (done : List Item) (item : Item)
    (before : List SourceLine) (failing : Option SourceLine) (after : List SourceLine)
    (events : List Event) : Prop where
  split : lines = before ++ failing.toList ++ after
  cut : Cut 0 none done item before failing after
  breaksOff : BreaksOff backend settings done item e events
  onlyReads : ∃ leading runs later,
    Stored backend settings done (sections (done ++ [item])).dropLast leading runs ∧
    events = leading ++ runs.flatMap SectionRun.events ++ later ∧
    ∀ event ∈ later, OnlyReads backend (done ++ [item]) event
  made : Realizes backend.attempts events (calls backend settings lines session)
  whatever : ∀ line ∈ failing, ∀ other,
    UpdateFile.apply backend settings (before ++ line :: other) session =
        UpdateFile.apply backend settings lines session ∧
      UpdateFile.calls backend settings (before ++ line :: other) session =
        UpdateFile.calls backend settings lines session

section Fails

variable {backend : Backend σ} {settings : BlockSettings}

theorem failsClosing {lines : List SourceLine} {session after : Session σ} {e : UpdateError}
    {done : List Item} (rest : List Item) {reached : Reached} (hItems : items lines = done ++ rest)
    (hClosing : ∀ item ∈ rest.head?, ∃ line, item = .header line)
    (hThrough : through backend settings {} done session = (.ok reached, after))
    (hClose : (reached.close backend after).1 = .error e) :
    ∃ block, FailsClosing backend settings lines session e done rest reached block after := by
  obtain ⟨block, hBlock, hFails⟩ := Reached.close_error hClose
  obtain ⟨events, -, hStands⟩ := Stands.start.through hThrough
  refine ⟨block, hItems, hClosing, hThrough, hBlock, hFails, ?_⟩
  rw [hBlock] at hStands
  cases hStands
  obtain rfl | ⟨source, rfl⟩ := Block.apply_ready hFails
  · exact .inr rfl
  · exact .inl rfl

/-- Where an update fails at an item, its recorded run fails, and the calls are in the record. -/
theorem failsReading {lines : List SourceLine} {done rest : List Item} {item : Item}
    {next : Reached} {session : Session σ} {recorded last : Session (Recorded σ)} {e : UpdateError}
    {events : List Event} (hItems : items lines = done ++ item :: rest)
    (hDone : through backend.recorded settings {} done (session.recording []) =
      (.ok next, recorded))
    (hFails : item.perform backend.recorded settings next recorded = (.error e, last))
    (hTraces : backend.recorded.Traces { world := session.world } events last.world)
    (hBreaks : BreaksOff backend.recorded settings done item e events) :
    ∃ before failing after,
      FailsReading backend settings lines session e done item before failing after events := by
  obtain ⟨before, failing, after, hSplit, hCut⟩ := itemsFrom_cut hItems
  have hApply {lines : List SourceLine} {rest : List Item}
      (h : items lines = done ++ item :: rest) :
      UpdateFile.apply backend settings lines session = (.error e, last.forget) ∧
        UpdateFile.calls backend settings lines session = last.world.calls := by
    have hRecorded := apply_of_failing h hDone hFails
    have hPlain := apply_mirrors backend settings lines (session.recording [])
    rw [hRecorded] at hPlain
    exact ⟨hPlain, by rw [UpdateFile.calls, hRecorded]⟩
  obtain ⟨made, hPath, hRealizes⟩ := hTraces
  refine ⟨before, failing, after, {
    split := hSplit
    cut := hCut
    breaksOff := hBreaks.ofRecorded
    onlyReads := hBreaks.ofRecorded.onlyReads
    made := ?_
    whatever := ?_ }⟩
  · rw [(hApply hItems).2, hPath.recorded]
    exact hRealizes
  · intro line hLine other
    obtain ⟨more, hMore⟩ := hCut.whatever line hLine other
    rw [(hApply hMore).1, (hApply hMore).2, (hApply hItems).1, (hApply hItems).2]
    exact ⟨rfl, rfl⟩

/-- An update that fails does so in the application of a block, or breaks off with every closed
section stored and nothing done for the open one. -/
theorem apply_fails {lines : List SourceLine} {session : Session σ} {e : UpdateError}
    (h : (UpdateFile.apply backend settings lines session).1 = .error e) :
    (∃ done rest reached block after,
      FailsClosing backend settings lines session e done rest reached block after) ∨
    ∃ done item before failing after events,
      FailsReading backend settings lines session e done item before failing after events := by
  rw [apply_eq_through, Action.bind_apply] at h
  rcases hThrough : through backend settings {} (items lines) session with ⟨_ | reached, after⟩ <;>
    rw [hThrough] at h
  · cases h
    obtain ⟨done, item, rest, next, middle, hItems, hDone, hFails⟩ := through_error hThrough
    -- The recorded run fails in the same way.
    have hMirrorsDone := through_mirrors backend settings {} done (session.recording [])
    rcases hRecorded : through backend.recorded settings {} done (session.recording []) with
      ⟨result, recorded⟩
    rw [hRecorded, Session.forget_recording, hDone] at hMirrorsDone
    cases hMirrorsDone
    have hMirrorsFails := item.perform_mirrors backend settings next recorded
    rcases hLast : item.perform backend.recorded settings next recorded with ⟨result, last⟩
    rw [hLast, hFails] at hMirrorsFails
    cases hMirrorsFails
    obtain ⟨ran, hRan, hStands⟩ := Stands.start.through hRecorded
    obtain ⟨line, rfl, hClose⟩ | ⟨more, hMore, hBreaks⟩ := hStands.failing hLast
    · have hAligned := backend.recorded_matches.aligned settings []
      have hPlain := (hAligned.close (fun _ _ => trivial) recorded _ rfl).1.trans hClose
      obtain ⟨block, hFailsClosing⟩ := failsClosing (.header line :: rest) hItems
        (fun _ hMem => ⟨line, (Option.some.inj hMem).symm⟩) hDone hPlain
      exact .inl ⟨done, _, next, block, _, hFailsClosing⟩
    · obtain ⟨before, failing, after, hReading⟩ :=
        failsReading hItems hRecorded hLast (hRan.append hMore) hBreaks
      exact .inr ⟨done, item, before, failing, after, _, hReading⟩
  · have hClose : (reached.close backend after).1 = .error e := by
      simp only [Reached.finish_apply] at h
      rcases hClosed : (reached.close backend after).1 with _ | _ <;> rw [hClosed] at h <;> cases h
      rfl
    obtain ⟨block, hFailsClosing⟩ := failsClosing [] (List.append_nil _).symm nofun
      hThrough hClose
    exact .inl ⟨_, _, reached, block, after, hFailsClosing⟩

/-- A file that ends within a raw statement, in its second block. -/
def truncatedLines : List SourceLine :=
  [commentedHeader, "1,2", commentedHeader, "3,4", "SQL delete from DEMO"].map .ok

theorem apply_fails_truncated :
    (UpdateFile.apply Script.backend { scope := .locally } truncatedLines
      { world := Script.steady }).1 = .error (.unterminatedSql 5 "delete from DEMO") ∧
    ∃ done item before failing after events,
      FailsReading Script.backend { scope := .locally } truncatedLines { world := Script.steady }
        (.unterminatedSql 5 "delete from DEMO") done item before failing after events := by
  have hFails : (UpdateFile.apply Script.backend { scope := .locally } truncatedLines
      { world := Script.steady }).1 = .error (.unterminatedSql 5 "delete from DEMO") := by
    decide +kernel
  refine ⟨hFails, ?_⟩
  obtain ⟨done, rest, reached, block, after, hClosing⟩ | hReading := apply_fails hFails
  · obtain hCode | hCode := hClosing.code <;> cases hCode
  · exact hReading

end Fails

end UpdateFile

end ValidityTables
