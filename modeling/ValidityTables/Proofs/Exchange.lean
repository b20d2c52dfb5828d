import ValidityTables.Proofs.Concatenation
import ValidityTables.Proofs.Operations
import ValidityTables.Proofs.Printout

/-! # Blocks of different tables commute

Two blocks share nothing in a rehearsal but the counters, and these are kept for each table of
validity rows apart. So the order of two adjacent blocks for different tables only shows in the
order of their statements and their entries in the report, even if one of the tables is the table
of validity rows of the other.
-/

namespace ValidityTables

variable {σ : Type}

namespace SequenceCounters

section Exchange

variable (counters : SequenceCounters) {one other : Load}

theorem number_past (h : one.header.table ≠ other.header.table) :
    (counters.past one).number other = counters.number other := by
  have hName : other.header.validityTable ≠ one.header.validityTable := by
    simpa [Header.validityTable, validityTable] using h.symm
  simp [number, past, tried_peek, tried_isCreated, hName]

theorem past_comm (h : one.header.table ≠ other.header.table) :
    (counters.past one).past other = (counters.past other).past one := by
  have hName : one.header.validityTable ≠ other.header.validityTable := by
    simpa [Header.validityTable, validityTable] using h
  simp only [past, tried, markCreated, take, mk.injEq]
  constructor
  · funext name
    by_cases hOne : name = one.header.validityTable
    · simp [hOne, hName]
    · by_cases hOther : name = other.header.validityTable <;> simp [hOne, hOther, hName.symm]
  · funext name
    exact Bool.or_left_comm _ _ _

theorem numberAll_two (one other : Load) (front back : List Load) :
    let middle := counters.pastAll front
    counters.numberAll (front ++ [one] ++ [other] ++ back) =
        counters.numberAll front ++ middle.number one :: (middle.past one).number other ::
          ((middle.past one).past other).numberAll back ∧
      counters.pastAll (front ++ [one] ++ [other] ++ back) =
        ((middle.past one).past other).pastAll back := by
  constructor
  · simp only [List.append_assoc, List.singleton_append, numberAll_append, numberAll]
    rfl
  · simp only [List.append_assoc, List.singleton_append, pastAll_append]
    rfl

/-- Loads of different tables get the same numbers in both orders. -/
theorem numberAll_exchange (h : one.header.table ≠ other.header.table) (front back : List Load) :
    let middle := counters.pastAll front
    let later := ((middle.past one).past other).numberAll back
    counters.numberAll (front ++ [one] ++ [other] ++ back) =
        counters.numberAll front ++ middle.number one :: middle.number other :: later ∧
      counters.numberAll (front ++ [other] ++ [one] ++ back) =
        counters.numberAll front ++ middle.number other :: middle.number one :: later ∧
      counters.pastAll (front ++ [other] ++ [one] ++ back) =
        counters.pastAll (front ++ [one] ++ [other] ++ back) := by
  intro middle later
  have hNumber := number_past middle h
  have hNumberOther := number_past middle h.symm
  have hComm := past_comm middle h
  obtain ⟨hAll, hPast⟩ := numberAll_two counters one other front back
  obtain ⟨hAllOther, hPastOther⟩ := numberAll_two counters other one front back
  refine ⟨?_, ?_, ?_⟩
  · rw [hAll, hNumber]
  · rw [hAllOther, hNumberOther, ← hComm]
  · rw [hPast, hPastOther, hComm]

end Exchange

end SequenceCounters

namespace UpdateFile

section Loads

variable {convert : Bool}

theorem loadsFrom?_skipped {skipped : List String}
    (hSkipped : ∀ text ∈ skipped, LineKind.ofLine text = .skipped) (last? : Option Load)
    (lines : List SourceLine) :
    loadsFrom? convert last? (skipped.map .ok ++ lines) = loadsFrom? convert last? lines := by
  induction skipped with
  | nil => rfl
  | cons text rest ih =>
    rw [List.map_cons, List.cons_append, loadsFrom?, hSkipped text (by simp)]
    exact ih fun other hMem => hSkipped other (List.mem_cons_of_mem _ hMem)

/-- A header closes the block that is open, as the end of a file does. -/
theorem loadsFrom?_header {lines : List SourceLine} (h : lines = [] ∨ BeginsWithHeader lines)
    (last? : Option Load) :
    loadsFrom? convert last? lines = do
      let done ← closed? last?
      let later ← loadsFrom? convert none lines
      return done ++ later := by
  obtain rfl | ⟨skipped, line, rest, rfl, hSkipped, hHeader⟩ := h
  · simp [loadsFrom?, closed?]
  · rw [loadsFrom?_skipped hSkipped, loadsFrom?_skipped hSkipped]
    simp [loadsFrom?, hHeader, closed?, Option.bind_assoc]

theorem loadsFrom?_append (last? : Option Load) (before : List SourceLine)
    {after : List SourceLine} (h : after = [] ∨ BeginsWithHeader after) :
    loadsFrom? convert last? (before ++ after) = do
      let done ← loadsFrom? convert last? before
      let later ← loadsFrom? convert none after
      return done ++ later := by
  induction before generalizing last? with
  | nil => exact loadsFrom?_header h last?
  | cons line rest ih =>
    cases line with
    | error fault => rfl
    | ok line =>
      rw [List.cons_append, loadsFrom?, loadsFrom?]
      cases LineKind.ofLine line with
      | skipped => exact ih last?
      | statement text => rfl
      | row =>
        cases last? with
        | none => rfl
        | some load => exact ih _
      | header => simp [ih, Option.bind_assoc]

def isHeader : SourceLine → Bool
  | .ok line => LineKind.ofLine line = .header
  | .error _ => false

theorem closed?_length {last? : Option Load} {loads : List Load} (h : closed? last? = some loads) :
    loads.length = last?.toList.length := by
  cases last? with
  | none =>
    cases h
    rfl
  | some load =>
    rw [closed?] at h
    split at h <;> cases h
    rfl

/-- There is a load for each header line. -/
theorem loadsFrom?_length {last? : Option Load} {lines : List SourceLine} {loads : List Load}
    (h : loadsFrom? convert last? lines = some loads) :
    loads.length = last?.toList.length + lines.countP isHeader := by
  induction lines generalizing last? loads with
  | nil => exact closed?_length h
  | cons line rest ih =>
    cases line with
    | error fault => cases h
    | ok line =>
      rw [loadsFrom?] at h
      cases hKind : LineKind.ofLine line with
      | statement text =>
        rw [hKind] at h
        cases h
      | skipped =>
        rw [hKind] at h
        simpa [isHeader, hKind] using ih h
      | row =>
        rw [hKind] at h
        cases last? with
        | none => cases h
        | some load => simpa [isHeader, hKind] using ih h
      | header =>
        rw [hKind] at h
        simp only [Option.bind_eq_bind, Option.bind_eq_some_iff, Option.pure_def,
          Option.some.injEq] at h
        obtain ⟨done, hDone, header, -, later, hLater, rfl⟩ := h
        have hFirst := closed?_length hDone
        have hRest := ih hLater
        simp only [Option.toList_some, List.length_singleton] at hRest
        simp only [List.length_append, List.countP_cons, isHeader, hKind, decide_true, if_true]
        omega

/-- The lines of one block: a header line with no other one under it, and with blank lines and
comments before it. -/
def IsBlock (line : String) (lines : List SourceLine) : Prop :=
  ∃ (skipped : List String) (rest : List SourceLine),
    lines = skipped.map .ok ++ .ok line :: rest ∧
      (∀ text ∈ skipped, LineKind.ofLine text = .skipped) ∧ LineKind.ofLine line = .header ∧
      ∀ other ∈ rest, isHeader other = false

theorem IsBlock.begins {line : String} {lines : List SourceLine} (h : IsBlock line lines) :
    BeginsWithHeader lines := by
  obtain ⟨skipped, rest, rfl, hSkipped, hHeader, -⟩ := h
  exact ⟨skipped, line, rest, rfl, hSkipped, hHeader⟩

theorem loadsFrom?_rows {load : Load} {lines : List SourceLine} {loads : List Load}
    (hLines : ∀ line ∈ lines, isHeader line = false)
    (h : loadsFrom? convert (some load) lines = some loads) :
    ∃ rows, loads = [{ load with rows }] := by
  induction lines generalizing load with
  | nil =>
    rw [loadsFrom?, closed?] at h
    split at h <;> cases h
    exact ⟨load.rows, rfl⟩
  | cons line rest ih =>
    have hRest := fun other hMem => hLines other (List.mem_cons_of_mem _ hMem)
    cases line with
    | error fault => cases h
    | ok line =>
      have hLine := hLines (.ok line) (by simp)
      rw [loadsFrom?] at h
      cases hKind : LineKind.ofLine line <;> rw [hKind] at h
      case skipped => exact ih hRest h
      case statement => cases h
      case row =>
        obtain ⟨rows, rfl⟩ := ih hRest h
        exact ⟨rows, rfl⟩
      case header => simp [isHeader, hKind] at hLine

theorem IsBlock.load {line : String} {lines : List SourceLine} {header : Header}
    (hBlock : IsBlock line lines) (hParse : Header.parse line = .ok header) {loads : List Load}
    (h : loadsFrom? convert none lines = some loads) :
    ∃ load, loads = [load] ∧ load.header = header := by
  obtain ⟨skipped, rest, rfl, hSkipped, hHeader, hRest⟩ := hBlock
  rw [loadsFrom?_skipped hSkipped, loadsFrom?, hHeader] at h
  simp only [closed?, opened?, hParse, Option.bind_eq_bind, Option.bind_some] at h
  split at h
  · cases h
  · simp only [Except.toOption, Option.bind_some, Option.bind_eq_some_iff] at h
    obtain ⟨later, hLater, hLoads⟩ := h
    obtain ⟨rows, rfl⟩ := loadsFrom?_rows hRest hLater
    cases hLoads
    exact ⟨_, rfl, rfl⟩

/-- Exchanging two adjacent blocks exchanges their loads. -/
theorem loadsFrom?_exchange {before one two after : List SourceLine} {lineOne lineTwo : String}
    {header other : Header} (hOne : IsBlock lineOne one) (hTwo : IsBlock lineTwo two)
    (hAfter : after = [] ∨ BeginsWithHeader after) (hHeader : Header.parse lineOne = .ok header)
    (hOther : Header.parse lineTwo = .ok other) {loads : List Load}
    (h : loadsFrom? convert none (before ++ one ++ two ++ after) = some loads) :
    ∃ front p q back, front.length = before.countP isHeader ∧
      loadsFrom? convert none one = some [p] ∧ loadsFrom? convert none two = some [q] ∧
      p.header = header ∧ q.header = other ∧ loads = front ++ [p] ++ [q] ++ back ∧
      loadsFrom? convert none (before ++ two ++ one ++ after) =
        some (front ++ [q] ++ [p] ++ back) := by
  -- Each part begins with a header, so its loads do not depend on the parts around it.
  have hApart (first second : List SourceLine) (hFirst : BeginsWithHeader first)
      (hSecond : BeginsWithHeader second) :
      loadsFrom? convert none (before ++ first ++ second ++ after) = do
        let front ← loadsFrom? convert none before
        let p ← loadsFrom? convert none first
        let q ← loadsFrom? convert none second
        let back ← loadsFrom? convert none after
        return front ++ p ++ q ++ back := by
    rw [loadsFrom?_append _ _ hAfter, loadsFrom?_append _ _ (.inr hSecond),
      loadsFrom?_append _ _ (.inr hFirst)]
    simp [Option.bind_assoc]
  rw [hApart one two hOne.begins hTwo.begins] at h
  simp only [Option.bind_eq_bind, Option.bind_eq_some_iff, Option.pure_def, Option.some.injEq] at h
  obtain ⟨front, hFront, first, hFirst, second, hSecond, back, hBack, rfl⟩ := h
  obtain ⟨p, rfl, hP⟩ := hOne.load hHeader hFirst
  obtain ⟨q, rfl, hQ⟩ := hTwo.load hOther hSecond
  have hLength := loadsFrom?_length hFront
  refine ⟨front, p, q, back, by simpa using hLength, hFirst, hSecond, hP, hQ, rfl, ?_⟩
  rw [hApart two one hTwo.begins hOne.begins, hFront, hFirst, hSecond, hBack]
  rfl

end Loads

end UpdateFile

namespace Updater

open UpdateFile

section Exchange

variable (backend : Backend σ) (print : String → σ → σ) (config : Config) {date : String}
  (hDate : ∀ world, (backend.services.now world).1 = date)

include hDate

/-- What a rehearsal makes of a file of which these are the loads. -/
theorem applyLines_printed {lines : List SourceLine} (hPlain : Plain lines) (session : Session σ) :
    let rehearsal : Updater σ := ⟨config, backend.rehearsing print⟩
    let settings := blockSettings config .locally
    match loadsFrom? config.convertUnsigned none lines with
    | none => ∃ e ended, rehearsal.applyLines .locally lines session = (.error e, ended)
    | some loads =>
      let numbered := session.counters.numberAll loads
      ∃ ended, rehearsal.applyLines .locally lines session =
          (.ok { blocks := numbered.map (Numbered.report settings) }, ended) ∧
        statements (rehearsal.calls [] [.applyFile .locally (.ok lines)] session) =
          numbered.flatMap (Numbered.printed settings date) ∧
        ended.counters = session.counters.pastAll loads := by
  intro rehearsal settings
  have hRun := @applyFrom_printed _ backend print _ hDate settings _ hPlain {} none rfl rfl
    (session.recording [])
  have hPlainRun := apply_mirrors (backend.rehearsing print) settings lines (session.recording [])
  change rehearsal.applyLines .locally lines session = _ at hPlainRun
  have hConvert : settings.convertUnsigned = config.convertUnsigned := rfl
  rw [hConvert] at hRun
  rcases hEnded : applyFrom (backend.rehearsing print).recorded settings {} lines
    (session.recording []) with ⟨result, after⟩
  rw [UpdateFile.apply, hEnded] at hPlainRun
  rw [hEnded] at hRun
  generalize hLoads : loadsFrom? config.convertUnsigned none lines = loads? at hRun ⊢
  cases hRun with
  | refused e => exact ⟨e, after.forget, hPlainRun⟩
  | printed hBlocks hPrints =>
    cases hBlocks
    refine ⟨after.forget, hPlainRun, ?_, hPrints.counters⟩
    have hCalls : rehearsal.calls [] [.applyFile .locally (.ok lines)] session =
        (UpdateFile.apply (backend.rehearsing print).recorded settings lines
          (session.recording [])).2.world.calls := rfl
    rw [hCalls, UpdateFile.apply, hEnded]
    exact hPrints.printed

/-- Two adjacent blocks for different tables of a file without raw statements can be exchanged: the
file is still accepted, the statements and the report are the same but for the order of the two, and
the counters are the same in the end. -/
theorem applyLines_exchange {before one two after : List SourceLine}
    (hPlain : Plain (before ++ one ++ two ++ after)) {lineOne lineTwo : String}
    (hOne : IsBlock lineOne one) (hTwo : IsBlock lineTwo two)
    (hAfter : after = [] ∨ BeginsWithHeader after) {header other : Header}
    (hHeader : Header.parse lineOne = .ok header) (hOther : Header.parse lineTwo = .ok other)
    (hTables : header.table ≠ other.table) {session ended : Session σ} {report : ApplyReport} :
    let rehearsal : Updater σ := ⟨config, backend.rehearsing print⟩
    let settings := blockSettings config .locally
    let printed (lines : List SourceLine) :=
      statements (rehearsal.calls [] [.applyFile .locally (.ok lines)] session)
    rehearsal.applyLines .locally (before ++ one ++ two ++ after) session = (.ok report, ended) →
    ∃ (front back : List Numbered) (p q : Numbered) (exchanged : ApplyReport) (last : Session σ),
      front.length = before.countP isHeader ∧ p.header = header ∧ q.header = other ∧
      loadsFrom? config.convertUnsigned none one = some [p.toLoad] ∧
      loadsFrom? config.convertUnsigned none two = some [q.toLoad] ∧
      printed (before ++ one ++ two ++ after) =
        (front ++ p :: q :: back).flatMap (Numbered.printed settings date) ∧
      report.blocks = (front ++ p :: q :: back).map (Numbered.report settings) ∧
      rehearsal.applyLines .locally (before ++ two ++ one ++ after) session =
        (.ok exchanged, last) ∧
      printed (before ++ two ++ one ++ after) =
        (front ++ q :: p :: back).flatMap (Numbered.printed settings date) ∧
      exchanged.blocks = (front ++ q :: p :: back).map (Numbered.report settings) ∧
      exchanged.sqlStatements = report.sqlStatements ∧ last.counters = ended.counters := by
  intro rehearsal settings printed hRun
  have hOriginal := applyLines_printed backend print config hDate hPlain session
  cases hLoads : loadsFrom? config.convertUnsigned none (before ++ one ++ two ++ after) with
  | none =>
    rw [hLoads] at hOriginal
    obtain ⟨e, failed, hFailed⟩ := hOriginal
    exact nomatch congrArg Prod.fst (hRun.symm.trans hFailed)
  | some loads =>
    rw [hLoads] at hOriginal
    obtain ⟨reached, hAccepted, hPrinted, hCounters⟩ := hOriginal
    obtain ⟨hReport, hEnded⟩ := Prod.mk.inj (hRun.symm.trans hAccepted)
    obtain ⟨front, p, q, back, hFront, hFirst, hSecond, rfl, rfl, rfl, hExchanged⟩ :=
      loadsFrom?_exchange hOne hTwo hAfter hHeader hOther hLoads
    have hOther : Plain (before ++ two ++ one ++ after) := fun line hMem =>
      hPlain line (by simpa [or_left_comm] using hMem)
    have hSwapped := applyLines_printed backend print config hDate hOther session
    rw [hExchanged] at hSwapped
    obtain ⟨last, hSecondRun, hSecondPrinted, hSecondCounters⟩ := hSwapped
    obtain ⟨hNumbers, hSwappedNumbers, hPast⟩ :=
      session.counters.numberAll_exchange hTables front back
    rw [hNumbers] at hAccepted hPrinted hReport
    rw [hSwappedNumbers] at hSecondRun hSecondPrinted
    refine ⟨session.counters.numberAll front, _, _, _, _, last, ?_, rfl, rfl, hFirst, hSecond,
      hPrinted, ?_, hSecondRun, hSecondPrinted, rfl, ?_, ?_⟩
    · rw [SequenceCounters.numberAll_length, hFront]
    · exact congrArg ApplyReport.blocks (Except.ok.inj hReport)
    · exact (congrArg ApplyReport.sqlStatements (Except.ok.inj hReport)).symm
    · rw [hSecondCounters, hPast, hEnded, hCounters]

end Exchange

def validityHeader : Header := { Block.demoHeader with table := "DEMOVLD" }

def validityLine : String :=
  "BEGIN_TABLE DEMOVLD '2001-01-01 00:00:00' '2002-01-01 00:00:00' 1 '2001-01-01 00:00:00'"

def demoLines : List SourceLine := ["# data", commentedHeader, "1,2"].map .ok

def validityLines : List SourceLine := [validityLine, "3,4", "", "5,6"].map .ok

/-- One of the two tables is the table of validity rows of the other. -/
theorem applyLines_exchange_named :
    let backend : Backend Catalogue := ⟨Catalogue.services, 3, .durable⟩
    let rehearsal : Updater Catalogue := ⟨{}, backend.rehearsing fun _ catalogue => catalogue⟩
    let session : Session Catalogue := { world := { known := fun _ => true, given := fun _ => 0 } }
    let run (lines : List SourceLine) := rehearsal.applyLines .locally lines session
    ∃ report ended exchanged last,
      run (demoLines ++ demoLines ++ validityLines ++ demoLines) = (.ok report, ended) ∧
      run (demoLines ++ validityLines ++ demoLines ++ demoLines) = (.ok exchanged, last) ∧
      (∃ front back p q, p.header = Block.demoHeader ∧ q.header = validityHeader ∧
        front.length = 1 ∧
        report.blocks = (front ++ p :: q :: back).map
          (Numbered.report (blockSettings {} .locally)) ∧
        exchanged.blocks = (front ++ q :: p :: back).map
          (Numbered.report (blockSettings {} .locally))) ∧
      last.counters = ended.counters := by
  intro backend rehearsal session run
  have hDemo : Header.parse commentedHeader = .ok Block.demoHeader := by decide +kernel
  have hValidity : Header.parse validityLine = .ok validityHeader := by decide +kernel
  have hDemoBlock : IsBlock commentedHeader demoLines :=
    ⟨["# data"], [.ok "1,2"], rfl, by decide +kernel, by decide +kernel, by decide +kernel⟩
  have hValidityBlock : IsBlock validityLine validityLines :=
    ⟨[], ["3,4", "", "5,6"].map .ok, rfl, by decide, by decide +kernel, by decide +kernel⟩
  have hPlain : Plain (demoLines ++ demoLines ++ validityLines ++ demoLines) := by
    simp only [Plain, List.forall_mem_append]
    decide +kernel
  have hOk : (run (demoLines ++ demoLines ++ validityLines ++ demoLines)).1.toOption.isSome := by
    decide +kernel
  have hCount : demoLines.countP isHeader = 1 := by decide +kernel
  rcases hRun : run (demoLines ++ demoLines ++ validityLines ++ demoLines) with ⟨_ | report, ended⟩
  · rw [hRun] at hOk
    cases hOk
  · obtain ⟨front, back, p, q, exchanged, last, hFront, hP, hQ, -, -, -, hBlocks, hExchanged, -,
        hOtherBlocks, -, hCounters⟩ :=
      applyLines_exchange backend (fun _ catalogue => catalogue) {} (fun _ => rfl) hPlain hDemoBlock
        hValidityBlock (.inr hDemoBlock.begins) hDemo hValidity (by decide) hRun
    exact ⟨report, ended, exchanged, last, rfl, hExchanged,
      ⟨front, back, p, q, hP, hQ, hFront.trans hCount, hBlocks, hOtherBlocks⟩, hCounters⟩

end Updater

end ValidityTables
