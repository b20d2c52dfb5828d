import ValidityTables.Proofs.ItemPlaces
import ValidityTables.Proofs.StoredRows
import ValidityTables.UpdateFile.Source

/-! # Files one after another

A file whose text ends with a line end, followed by one that begins with a header, is applied like
the two files one after another: the header closes the last block of the first file as its own end
does, and from there on an update does not depend on what it has reached before.
-/

namespace ValidityTables

variable {σ : Type}

theorem Text.linesFrom_append {α : Type} [DecidableEq α] (feed ret : α) {line before : List α}
    (h : before.getLast? = some feed) (later : List α) :
    linesFrom feed ret line (before ++ later) =
      linesFrom feed ret line before ++ linesFrom feed ret [] later := by
  induction before generalizing line with
  | nil => cases h
  | cons c rest ih =>
    rw [List.cons_append]
    by_cases hEnd : rest = []
    · subst hEnd
      obtain rfl : c = feed := Option.some.inj h
      simp [linesFrom]
    · have hRest : rest.getLast? = some feed := by
        rwa [List.getLast?_cons_of_ne_nil hEnd] at h
      simp only [linesFrom]
      split
      · rw [ih hRest]
        rfl
      · exact ih hRest

/-- The error at a place of a file that stands so many lines further down. Of the errors, only that
of an open raw statement names its line. -/
def UpdateError.later (n : Nat) : UpdateError → UpdateError
  | .unterminatedSql start text => .unterminatedSql (start + n) text
  | e => e

/-- The report of two files. -/
def ApplyReport.append (report later : ApplyReport) : ApplyReport where
  sqlStatements := report.sqlStatements + later.sqlStatements
  blocks := report.blocks ++ later.blocks

namespace UpdateFile

def OpenStatement.later (n : Nat) (statement : OpenStatement) : OpenStatement :=
  { statement with lineNumber := statement.lineNumber + n }

def Item.later (n : Nat) : Item → Item
  | .row m line => .row (m + n) line
  | .stop e => .stop (e.later n)
  | item => item

theorem Item.later_header (n : Nat) (line : String) :
    (Item.header line).later n = .header line := rfl

/-- An update that has reached this after the files of the report. -/
def Reached.after (report : ApplyReport) (reached : Reached) : Reached where
  block := reached.block
  sqlStatements := report.sqlStatements + reached.sqlStatements
  blocks := report.blocks.toArray ++ reached.blocks

theorem Item.later_eq_moved (n : Nat) :
    Item.later n = Item.moved (· + n) (UpdateError.later n) := by
  funext item
  cases item <;> rfl

theorem scan_later (n m : Nat) (statement : Option OpenStatement) (line : String) :
    scan (m + n) (statement.map (OpenStatement.later n)) line =
      ((scan m statement line).1.map (Item.later n),
        (scan m statement line).2.map (OpenStatement.later n)) := by
  rw [Item.later_eq_moved]
  exact scan_moved (· + n) (UpdateError.later n) m statement line

theorem itemsFrom_later (n m : Nat) (statement : Option OpenStatement) (lines : List SourceLine) :
    itemsFrom (m + n) (statement.map (OpenStatement.later n)) lines =
      (itemsFrom m statement lines).map (Item.later n) := by
  induction lines generalizing m statement with
  | nil => cases statement <;> rfl
  | cons line rest ih =>
    cases line with
    | error fault => rfl
    | ok line =>
      rw [itemsFrom_cons, itemsFrom_cons, Nat.add_right_comm, scan_later, ih, List.map_append]
      cases (scan (m + 1) statement line).1 <;> rfl

/-- The first line that is neither blank nor a comment is a header. -/
def BeginsWithHeader (lines : List SourceLine) : Prop :=
  ∃ (skipped : List String) (line : String) (rest : List SourceLine),
    lines = skipped.map .ok ++ .ok line :: rest ∧
      (∀ text ∈ skipped, LineKind.ofLine text = .skipped) ∧ LineKind.ofLine line = .header

theorem items_header {lines : List SourceLine} (h : BeginsWithHeader lines) :
    ∃ line rest, items lines = .header line :: rest := by
  obtain ⟨skipped, line, rest, rfl, hSkipped, hHeader⟩ := h
  unfold items
  generalize 0 = n
  induction skipped generalizing n with
  | nil => exact ⟨line, _, by simp [itemsFrom, hHeader]; rfl⟩
  | cons text skipped ih =>
    obtain ⟨first, more, hItems⟩ :=
      ih (fun other hMem => hSkipped other (List.mem_cons_of_mem _ hMem)) (n + 1)
    refine ⟨first, more, ?_⟩
    rw [← hItems]
    simp [itemsFrom, hSkipped text (by simp)]

section Frame

variable (backend : Backend σ) (settings : BlockSettings) (report : ApplyReport)

theorem Reached.close_after (reached : Reached) (session : Session σ) :
    (reached.after report).close backend session =
      ((reached.close backend session).1.map (Reached.after report),
        (reached.close backend session).2) := by
  obtain ⟨block, count, blocks⟩ := reached
  cases block with
  | none => rfl
  | some block =>
    simp only [close, after]
    rcases block.apply backend session with ⟨⟨_ | entry, _⟩, _⟩
    · rfl
    · simp [Except.map, after]

theorem Reached.start_after (reached : Reached) (line : String) (session : Session σ) :
    (reached.after report).start backend settings line session =
      ((reached.start backend settings line session).1.map (Reached.after report),
        (reached.start backend settings line session).2) := by
  simp only [start, Action.bind_apply]
  rcases Block.begin backend settings line session with ⟨_ | block, middle⟩
  · rfl
  · simp only
    cases block.stage.refusal? <;> rfl

theorem Item.perform_after (reached : Reached) (item : Item) (session : Session σ) :
    item.perform backend settings (reached.after report) session =
      ((item.perform backend settings reached session).1.map (Reached.after report),
        (item.perform backend settings reached session).2) := by
  cases item with
  | statement text =>
    simp only [perform, Reached.execute, Action.bind_apply]
    rcases discard (backend.query text) session with ⟨_ | _, _⟩ <;> rfl
  | header line =>
    simp only [perform, Action.bind_apply, Reached.close_after]
    rcases reached.close backend session with ⟨_ | closed, middle⟩
    · rfl
    · exact closed.start_after backend settings report line middle
  | row n line =>
    obtain ⟨block, count, blocks⟩ := reached
    cases block with
    | none => rfl
    | some block =>
      simp only [perform, Action.mk_pure_apply, Reached.addRow, Reached.after]
      cases block.addRow line <;> rfl
  | stop e => rfl

theorem through_after (reached : Reached) (items : List Item) (session : Session σ) :
    through backend settings (reached.after report) items session =
      ((through backend settings reached items session).1.map (Reached.after report),
        (through backend settings reached items session).2) := by
  induction items generalizing reached session with
  | nil => rfl
  | cons item rest ih =>
    rw [through_cons, through_cons, Item.perform_after]
    rcases item.perform backend settings reached session with ⟨_ | next, middle⟩
    · rfl
    · exact ih next middle

theorem Reached.finish_after (reached : Reached) (session : Session σ) :
    (reached.after report).finish backend session =
      ((reached.finish backend session).1.map report.append,
        (reached.finish backend session).2) := by
  rw [finish_apply, finish_apply, close_after]
  rcases reached.close backend session with ⟨_ | closed, _⟩
  · rfl
  · simp [Except.map, after, Reached.report, ApplyReport.append]

/-- Once its last block is closed, all that is left of a file is its report. -/
theorem Reached.after_report {reached : Reached} (h : reached.block = none) :
    ({} : Reached).after reached.report = reached := by
  obtain ⟨block, count, blocks⟩ := reached
  cases h
  simp [after, Reached.report]

end Frame

section Later

variable {backend : Backend σ} {settings : BlockSettings}

/-- The error further down is that of the same place, unless it is one with which a statement was
answered. -/
inductive Delays (backend : Backend σ) (n : Nat) (e : UpdateError) : UpdateError → Prop
  | moved : Delays backend n e (e.later n)
  | answered {sql : String} {world : σ} : (backend.services.execute sql world).1 = .error e →
      Delays backend n e e

theorem Placeless.delays {e : UpdateError} (h : Placeless backend e) (n : Nat) :
    Delays backend n e e := by
  cases h with
  | unmoved hUnmoved =>
    have hLater : e.later n = e := by
      cases e with
      | unterminatedSql => exact hUnmoved (· + n)
      | _ => rfl
    have hMoved : Delays backend n e (e.later n) := .moved
    rwa [hLater] at hMoved
  | answered hAnswer => exact .answered hAnswer

/-- An item further down does what it does at its own place, if a block is open or it begins one. -/
theorem Item.perform_later (backend : Backend σ) (settings : BlockSettings) (n : Nat)
    {reached : Reached} {item : Item} (session : Session σ)
    (hOpen : reached.block = none → ∃ line, item = .header line) :
    match item.perform backend settings reached session with
    | (.ok next, after) =>
      (item.later n).perform backend settings reached session = (.ok next, after) ∧
        next.block ≠ none
    | (.error e, after) => ∃ last,
      (item.later n).perform backend settings reached session = (.error last, after) ∧
        Delays backend n e last := by
  cases item with
  | statement text =>
    have hBlock : reached.block ≠ none := by
      intro hNone
      obtain ⟨line, hLine⟩ := hOpen hNone
      cases hLine
    simp only [Item.later, perform, Reached.execute, Action.bind_apply, Action.discard_apply]
    rcases hQuery : backend.query text session with ⟨e | lines, after⟩
    · exact ⟨e, rfl, (attempt_placeless (congrArg Prod.fst hQuery)).delays n⟩
    · exact ⟨rfl, hBlock⟩
  | header line =>
    simp only [Item.later, perform, Action.bind_apply]
    rcases hClose : reached.close backend session with ⟨e | closed, middle⟩
    · exact ⟨e, rfl, (close_placeless (congrArg Prod.fst hClose)).delays n⟩
    · simp only
      rcases hStart : closed.start backend settings line middle with ⟨e | next, after⟩
      · exact ⟨e, rfl, (start_placeless (congrArg Prod.fst hStart)).delays n⟩
      · refine ⟨rfl, ?_⟩
        obtain ⟨events, begun, -, -, hNext⟩ := Reached.start_traces hStart
        cases begun <;> cases hNext
        rintro ⟨⟩
  | row m line =>
    simp only [Item.later, perform, Action.mk_pure_apply, Reached.addRow]
    cases hBlock : reached.block with
    | none =>
      obtain ⟨header, hLine⟩ := hOpen hBlock
      cases hLine
    | some block =>
      cases hAdded : block.addRow line with
      | ok added =>
        simp only [hAdded, Except.map]
        exact ⟨trivial, by rintro ⟨⟩⟩
      | error e =>
        simp only [hAdded, Except.map]
        exact ⟨e, rfl, (addRow_placeless hAdded).delays n⟩
  | stop e => exact ⟨e.later n, rfl, .moved⟩

/-- Files further down are gone through in the same way. -/
theorem through_later (backend : Backend σ) (settings : BlockSettings) (n : Nat)
    {reached : Reached} {items : List Item} (session : Session σ)
    (hOpen : reached.block = none → ∃ line rest, items = .header line :: rest) :
    match through backend settings reached items session with
    | (.ok next, after) =>
      through backend settings reached (items.map (Item.later n)) session = (.ok next, after) ∧
        next.block ≠ none
    | (.error e, after) => ∃ last,
      through backend settings reached (items.map (Item.later n)) session = (.error last, after) ∧
        Delays backend n e last := by
  -- Once a block is open there always is one, so only the first item has to be a header.
  induction items generalizing reached session with
  | nil =>
    refine ⟨rfl, fun hNone => ?_⟩
    obtain ⟨line, rest, hItems⟩ := hOpen hNone
    cases hItems
  | cons item rest ih =>
    rw [List.map_cons, through_cons, through_cons]
    have hItem := item.perform_later backend settings n session fun hNone => by
      obtain ⟨line, more, hItems⟩ := hOpen hNone
      exact ⟨line, (List.cons.inj hItems).1⟩
    rcases hPerform : item.perform backend settings reached session with ⟨e | next, middle⟩ <;>
      rw [hPerform] at hItem
    · obtain ⟨last, hLater, hDelays⟩ := hItem
      rw [hLater]
      exact ⟨last, rfl, hDelays⟩
    · obtain ⟨hLater, hBlock⟩ := hItem
      rw [hLater]
      exact ih middle fun hNone => absurd hNone hBlock

/-- What comes of a file that is applied after another one, and of both in one file. -/
inductive Joins (backend : Backend σ) (n : Nat) (report : ApplyReport) :
    Except UpdateError ApplyReport → Except UpdateError ApplyReport → Prop
  | stored {later : ApplyReport} : later.blocks ≠ [] →
      Joins backend n report (.ok later) (.ok (report.append later))
  | failed {e last : UpdateError} : Delays backend n e last →
      Joins backend n report (.error e) (.error last)

theorem Joins.of_ok {n : Nat} {report other : ApplyReport} {whole : Except UpdateError ApplyReport}
    (h : Joins backend n report (.ok other) whole) :
    whole = .ok (report.append other) ∧ (report.append other).status = .applied := by
  obtain hBlocks | _ := h
  refine ⟨rfl, ?_⟩
  simp [ApplyReport.status, ApplyReport.append, hBlocks]

theorem Joins.of_error {n : Nat} {report : ApplyReport} {e : UpdateError}
    {whole : Except UpdateError ApplyReport} (h : Joins backend n report (.error e) whole) :
    ∃ last, whole = .error last ∧ Delays backend n e last := by
  obtain _ | hDelays := h
  exact ⟨_, rfl, hDelays⟩

theorem finish_joins (n : Nat) (report : ApplyReport) {reached : Reached} {session : Session σ}
    (hBlock : reached.block ≠ none) :
    ((reached.after report).finish backend session).2 = (reached.finish backend session).2 ∧
      Joins backend n report (reached.finish backend session).1
        ((reached.after report).finish backend session).1 := by
  rw [Reached.finish_after]
  refine ⟨rfl, ?_⟩
  rw [Reached.finish_apply]
  rcases hClose : reached.close backend session with ⟨e | closed, after⟩
  · exact .failed ((close_placeless (congrArg Prod.fst hClose)).delays n)
  · refine .stored ?_
    obtain ⟨block, hSome⟩ := Option.ne_none_iff_exists'.mp hBlock
    rw [Reached.close, hSome] at hClose
    simp only at hClose
    rcases hApply : block.apply backend session with ⟨⟨_ | entry, _⟩, _⟩ <;>
      rw [hApply] at hClose <;> cases hClose
    simp [Reached.report]

/-- A file that begins with a header is applied after another one as it is alone. -/
theorem through_joins (backend : Backend σ) (settings : BlockSettings) (n : Nat)
    (report : ApplyReport) {items rest : List Item} {line : String}
    (hItems : items = .header line :: rest) (session : Session σ) :
    let second := (through backend settings {} items >>= Reached.finish backend) session
    let whole := (through backend settings (({} : Reached).after report)
      (items.map (Item.later n)) >>= Reached.finish backend) session
    whole.2 = second.2 ∧ Joins backend n report second.1 whole.1 := by
  have hLater := through_later backend settings n session
    fun _ : ({} : Reached).block = none => ⟨line, rest, hItems⟩
  simp only [Action.bind_apply, through_after]
  rcases hThrough : through backend settings {} items session with ⟨e | next, after⟩ <;>
    rw [hThrough] at hLater
  · obtain ⟨last, hLast, hDelays⟩ := hLater
    rw [hLast]
    exact ⟨rfl, .failed hDelays⟩
  · obtain ⟨hNext, hBlock⟩ := hLater
    rw [hNext]
    exact finish_joins n report hBlock

/-- A header closes the block before it as the end of a file does. -/
theorem through_closed {reached closed : Reached} {session after : Session σ}
    (h : reached.close backend session = (.ok closed, after)) (line : String) (rest : List Item) :
    through backend settings reached (.header line :: rest) session =
      through backend settings (({} : Reached).after closed.report) (.header line :: rest)
        after := by
  have hBlock := Reached.close_block h
  have hClosed : closed.close backend after = (.ok closed, after) := by
    rw [Reached.close, hBlock]
    rfl
  rw [Reached.after_report hBlock, through_cons, through_cons]
  simp only [Item.perform, Action.bind_apply, h, hClosed]

theorem through_stop (reached : Reached) (done : List Item) (e : UpdateError)
    (session : Session σ) :
    through backend settings reached (done ++ [.stop e]) session =
      match through backend settings reached done session with
      | (.ok _, after) => (.error e, after)
      | (.error cause, after) => (.error cause, after) := by
  rw [through_append]
  rcases through backend settings reached done session with ⟨_ | _, _⟩ <;> rfl

/-- Where one file ends and another one begins with a header, the end closes the last block if they
are applied one after the other, and the header does if they are one file. -/
theorem finish_append (backend : Backend σ) (settings : BlockSettings) (n : Nat)
    {items rest : List Item} {line : String} (hItems : items = .header line :: rest)
    (reached : Reached) (session : Session σ) :
    let whole := (through backend settings reached (items.map (Item.later n)) >>=
      Reached.finish backend) session
    match reached.finish backend session with
    | (.ok report, after) =>
      let later := (through backend settings {} items >>= Reached.finish backend) after
      whole.2 = later.2 ∧ Joins backend n report later.1 whole.1
    | (.error e, after) => whole = (.error e, after) := by
  rw [Reached.finish_apply]
  rcases hClose : reached.close backend session with ⟨e | closed, after⟩
  · rw [hItems, List.map_cons, Item.later_header, Action.bind_apply, through_cons]
    simp only [Item.perform, Action.bind_apply, hClose]
    rfl
  · have hJoins := through_joins backend settings n closed.report hItems after
    simp only [Action.bind_apply] at hJoins ⊢
    rw [hItems, List.map_cons, Item.later_header] at hJoins ⊢
    rw [through_closed hClose]
    exact hJoins

theorem apply_append (backend : Backend σ) (settings : BlockSettings) (first : List SourceLine)
    {second : List SourceLine} (hSecond : BeginsWithHeader second) (session : Session σ) :
    match UpdateFile.apply backend settings first session with
    | (.ok report, after) =>
      let later := UpdateFile.apply backend settings second after
      let whole := UpdateFile.apply backend settings (first ++ second) session
      whole.2 = later.2 ∧ Joins backend first.length report later.1 whole.1
    | (.error e, after) => e.code ≠ .unterminatedSql →
      UpdateFile.apply backend settings (first ++ second) session = (.error e, after) := by
  obtain ⟨line, rest, hHeader⟩ := items_header hSecond
  simp only [apply_eq_through, Action.bind_apply]
  obtain ⟨done, fault, hStop⟩ | ⟨done, left, hLeft⟩ := itemsFrom_append 0 none first
  · have hFirst : items first = done ++ [.stop (.io fault)] := List.append_nil first ▸ hStop []
    have hWhole : items (first ++ second) = done ++ [.stop (.io fault)] := hStop second
    rw [hFirst, hWhole, through_stop]
    rcases through backend settings {} done session with ⟨_ | _, _⟩ <;> exact fun _ => rfl
  · have hFirst : items first = done ++ itemsFrom (0 + first.length) left [] :=
      List.append_nil first ▸ hLeft []
    have hWhole : items (first ++ second) = done ++ itemsFrom (0 + first.length) left second :=
      hLeft second
    rw [hFirst, hWhole]
    cases left with
    | some statement =>
      -- The first file ends in a raw statement, of which the second one may be the rest.
      rw [itemsFrom, through_stop, through_append]
      rcases through backend settings {} done session with ⟨_ | _, _⟩
      · exact fun _ => rfl
      · exact fun hCode => absurd rfl hCode
    | none =>
      have hLater : itemsFrom (0 + first.length) none second =
          (items second).map (Item.later first.length) := itemsFrom_later first.length 0 none second
      rw [hLater, itemsFrom, List.append_nil, through_append]
      rcases through backend settings {} done session with ⟨e | reached, middle⟩
      · exact fun _ => rfl
      · have hFinish := finish_append backend settings first.length hHeader reached middle
        simp only [Action.bind_apply] at hFinish ⊢
        rcases hEnded : reached.finish backend middle with ⟨e | report, after⟩ <;>
          rw [hEnded] at hFinish
        · exact fun _ => hFinish
        · exact hFinish

end Later

theorem ofBytes_append {first : List UInt8} (h : first = [] ∨ first.getLast? = some 10)
    (second : List UInt8) : ofBytes (first ++ second) = ofBytes first ++ ofBytes second := by
  unfold ofBytes Text.byteLines
  obtain rfl | hFeed := h
  · rfl
  · rw [Text.linesFrom_append 10 13 hFeed, List.map_append]

section Concatenated

variable (backend : Backend σ) (settings : BlockSettings)

theorem calls_append (first : List SourceLine) {second : List SourceLine}
    (hSecond : BeginsWithHeader second) (session : Session σ) :
    match UpdateFile.apply backend settings first session with
    | (.ok _, after) => calls backend settings (first ++ second) session =
        calls backend settings first session ++ calls backend settings second after
    | (.error e, _) => e.code ≠ .unterminatedSql →
      calls backend settings (first ++ second) session = calls backend settings first session := by
  have hAppend := apply_append backend.recorded settings first hSecond (session.recording [])
  have hMirrors := apply_mirrors backend settings first (session.recording [])
  rcases hFirst : UpdateFile.apply backend.recorded settings first (session.recording []) with
    ⟨e | report, after⟩
  all_goals
    have hMade : calls backend settings first session = after.world.calls := by
      rw [calls, hFirst]
    rw [hFirst] at hAppend hMirrors
    rw [Session.forget_recording] at hMirrors
    rw [hMirrors]
  · intro hCode
    rw [calls, hAppend hCode, hMade]
  · have hAfter : after = after.forget.recording after.world.calls := rfl
    change calls backend settings (first ++ second) session = _
    rw [calls, hAppend.1, hMade, ← apply_recording, ← hAfter]

/-- A file whose first lines are those of another one, and whose others begin with a header, is
applied like the two files one after another. -/
theorem apply_concatenated {first second : List UInt8}
    (hFirst : first = [] ∨ first.getLast? = some 10) (hSecond : BeginsWithHeader (ofBytes second))
    (session : Session σ) :
    let before := UpdateFile.apply backend settings (ofBytes first) session
    let later := UpdateFile.apply backend settings (ofBytes second) before.2
    let whole := UpdateFile.apply backend settings (ofBytes (first ++ second)) session
    let made (bytes : List UInt8) (session : Session σ) :=
      calls backend settings (ofBytes bytes) session
    (∀ report, before.1 = .ok report →
      made (first ++ second) session = made first session ++ made second before.2 ∧
      whole.2 = later.2 ∧
      (∀ other, later.1 = .ok other → whole.1 = .ok (report.append other) ∧
        (report.append other).status = .applied) ∧
      ∀ e, later.1 = .error e → ∃ last, whole.1 = .error last ∧
        Delays backend (ofBytes first).length e last) ∧
    ∀ e, before.1 = .error e → e.code ≠ .unterminatedSql →
      whole = before ∧ made (first ++ second) session = made first session := by
  intro before later whole made
  have hAppend := apply_append backend settings (ofBytes first) hSecond session
  have hCalls := calls_append backend settings (ofBytes first) hSecond session
  rw [← ofBytes_append hFirst] at hAppend hCalls
  have hBefore : UpdateFile.apply backend settings (ofBytes first) session = before := rfl
  rw [hBefore] at hAppend hCalls
  constructor
  · intro report hReport
    rw [show before = (.ok report, before.2) from Prod.ext hReport rfl] at hAppend hCalls
    obtain ⟨hSession, hJoins⟩ := hAppend
    refine ⟨hCalls, hSession, fun other hOther => ?_, fun e hError => ?_⟩
    · rw [hOther] at hJoins
      exact hJoins.of_ok
    · rw [hError] at hJoins
      exact hJoins.of_error
  · intro e hError hCode
    rw [show before = (.error e, before.2) from Prod.ext hError rfl] at hAppend hCalls ⊢
    exact ⟨hAppend hCode, hCalls hCode⟩

/-- A file with one block. -/
def pairedFirst : List UInt8 := (commentedHeader ++ "\n1,2\n").toUTF8.toList

/-- A file with another block that ends within a raw statement. -/
def pairedSecond : List UInt8 :=
  ("# more\n" ++ commentedHeader ++ "\nSQL delete from DEMO").toUTF8.toList

theorem apply_concatenated_paired :
    let before := UpdateFile.apply Script.backend { scope := .locally } (ofBytes pairedFirst)
      { world := Script.steady }
    let whole := UpdateFile.apply Script.backend { scope := .locally }
      (ofBytes (pairedFirst ++ pairedSecond)) { world := Script.steady }
    (pairedFirst = [] ∨ pairedFirst.getLast? = some 10) ∧
      BeginsWithHeader (ofBytes pairedSecond) ∧
      before.1.toOption.isSome ∧
      (UpdateFile.apply Script.backend { scope := .locally } (ofBytes pairedSecond) before.2).1 =
        .error (.unterminatedSql 3 "delete from DEMO") ∧
      ∃ last, whole.1 = .error last ∧
        Delays Script.backend (ofBytes pairedFirst).length
          (.unterminatedSql 3 "delete from DEMO") last := by
  intro before whole
  have hFirst : pairedFirst = [] ∨ pairedFirst.getLast? = some 10 := .inr (by decide +kernel)
  have hSecond : BeginsWithHeader (ofBytes pairedSecond) :=
    ⟨["# more"], commentedHeader, [.ok "SQL delete from DEMO"], by decide +kernel,
      by decide +kernel, by decide +kernel⟩
  have hLater : (UpdateFile.apply Script.backend { scope := .locally } (ofBytes pairedSecond)
      before.2).1 = .error (.unterminatedSql 3 "delete from DEMO") := by decide +kernel
  have hBefore : before.1.toOption.isSome = true := by decide +kernel
  cases hReport : before.1 with
  | error e => rw [hReport] at hBefore; cases hBefore
  | ok report =>
    obtain ⟨hRun, -⟩ := apply_concatenated Script.backend { scope := .locally } hFirst hSecond
      { world := Script.steady }
    exact ⟨hFirst, hSecond, rfl, hLater, (hRun report hReport).2.2.2 _ hLater⟩

end Concatenated

end UpdateFile

end ValidityTables
