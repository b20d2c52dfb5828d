import ValidityTables.Proofs.Application

/-! # A file item by item

The reading of a file and the update it drives are two folds, one over the lines and one over the
items that the lines amount to. So a file can be cut: what the lines before the cut amount to does
not depend on those after it, and an update that fails does so at one item, or at the last block.
-/

namespace ValidityTables

variable {σ : Type}

theorem Block.apply_ready {backend : Backend σ} {settings : BlockSettings} {header : Header}
    {rows : Rows} {session : Session σ} {e : UpdateError}
    (h : (Block.apply backend { settings, stage := .ready header rows } session).1.1 = .error e) :
    e = .block (.empty header.table) ∨ ∃ source, e = applicationError header source := by
  rw [Block.apply, Action.state_bind_apply] at h
  cases hRows : rows.isEmpty with
  | true =>
    rw [applyAt_waiting backend settings _ header hRows] at h
    cases h
    exact .inl rfl
  | false =>
    rw [applyAt_ready backend settings _ header hRows] at h
    rcases hApply : applyReady backend settings (backend.now session).1 header rows
      (backend.now session).2 with ⟨⟨result, stage⟩, after⟩
    obtain ⟨events, hApplication, -⟩ := applyReady_traces hApply
    rw [hApply] at h
    cases hApplication <;> cases h <;> exact .inr ⟨_, rfl⟩

namespace UpdateFile

/-- A raw statement is an item once it is complete, and stays open before. -/
def OpenStatement.settle (statement : OpenStatement) : Option Item × Option OpenStatement :=
  if statement.isComplete then (some (.statement statement.text), none) else (none, some statement)

/-- The item that line `n` completes, and the raw statement that is open after it. -/
def scan (n : Nat) (statement : Option OpenStatement) (line : String) :
    Option Item × Option OpenStatement :=
  match statement with
  | some statement =>
    { statement with pieces := Text.edit Text.trim line :: statement.pieces : OpenStatement }.settle
  | none =>
    match LineKind.ofLine line with
    | .skipped => (none, none)
    | .statement text => { lineNumber := n, pieces := [text] : OpenStatement }.settle
    | .header => (some (.header line), none)
    | .row => (some (.row n line), none)

theorem itemsFrom_settle (n : Nat) (statement : OpenStatement) (rest : List SourceLine) :
    (if statement.isComplete then .statement statement.text :: itemsFrom n none rest
      else itemsFrom n (some statement) rest) =
      statement.settle.1.toList ++ itemsFrom n statement.settle.2 rest := by
  unfold OpenStatement.settle
  split <;> rfl

theorem itemsFrom_cons (n : Nat) (statement : Option OpenStatement) (line : String)
    (rest : List SourceLine) :
    itemsFrom n statement (.ok line :: rest) =
      (scan (n + 1) statement line).1.toList ++
        itemsFrom (n + 1) (scan (n + 1) statement line).2 rest := by
  cases statement with
  | some statement => exact itemsFrom_settle _ _ _
  | none =>
    rw [itemsFrom, scan]
    cases LineKind.ofLine line with
    | statement text => exact itemsFrom_settle _ _ _
    | skipped | header | row => rfl

/-- Lines amount to the same items whatever follows them, unless one of them cannot be read. -/
theorem itemsFrom_append (n : Nat) (statement : Option OpenStatement) (before : List SourceLine) :
    (∃ done fault, ∀ later, itemsFrom n statement (before ++ later) = done ++ [.stop (.io fault)]) ∨
      ∃ done left, ∀ later, itemsFrom n statement (before ++ later) =
        done ++ itemsFrom (n + before.length) left later := by
  induction before generalizing n statement with
  | nil => exact .inr ⟨[], statement, fun _ => rfl⟩
  | cons line rest ih =>
    cases line with
    | error fault => exact .inl ⟨[], fault, fun _ => rfl⟩
    | ok line =>
      simp only [List.cons_append, itemsFrom_cons]
      obtain ⟨done, fault, hStop⟩ | ⟨done, left, hRest⟩ :=
        ih (n + 1) (scan (n + 1) statement line).2
      · exact .inl ⟨(scan (n + 1) statement line).1.toList ++ done, fault, by simp [hStop]⟩
      · refine .inr ⟨(scan (n + 1) statement line).1.toList ++ done, left, fun later => ?_⟩
        rw [hRest, List.append_assoc, List.length_cons, Nat.add_right_comm, Nat.add_assoc]

theorem OpenStatement.settle_left {statement : OpenStatement} {item : Item}
    (h : statement.settle.1 = some item) : statement.settle.2 = none := by
  unfold settle at h ⊢
  cases hComplete : statement.isComplete with
  | true => rfl
  | false => simp [hComplete] at h

theorem scan_left {n : Nat} {statement : Option OpenStatement} {line : String} {item : Item}
    (h : (scan n statement line).1 = some item) : (scan n statement line).2 = none := by
  cases statement with
  | some statement => exact OpenStatement.settle_left h
  | none =>
    unfold scan at h ⊢
    cases hKind : LineKind.ofLine line with
    | statement text =>
      simp only [hKind] at h
      exact OpenStatement.settle_left h
    | skipped | header | row => rfl

/-- The place of an item in the lines: they are cut at the line that completes the item, or at the
end of the file if a raw statement is open there. -/
structure Cut (n : Nat) (statement : Option OpenStatement) (done : List Item) (item : Item)
    (before : List SourceLine) (failing : Option SourceLine) (after : List SourceLine) : Prop where
  ahead : ∀ fault, itemsFrom n statement (before ++ [.error fault]) = done ++ [.stop (.io fault)]
  upTo : itemsFrom n statement (before ++ failing.toList) = done ++ [item]
  whatever : ∀ line ∈ failing, ∀ other,
    ∃ more, itemsFrom n statement (before ++ line :: other) = done ++ item :: more
  atEnd : failing = none → after = [] ∧ ∃ start text, item = .stop (.unterminatedSql start text)

theorem Cut.unreadable (n : Nat) (statement : Option OpenStatement) (fault : IoFault)
    (after : List SourceLine) :
    Cut n statement [] (.stop (.io fault)) [] (some (.error fault)) after where
  ahead _ := rfl
  upTo := rfl
  whatever := by
    rintro _ ⟨⟩ other
    exact ⟨[], rfl⟩
  atEnd := nofun

theorem Cut.unterminated (n : Nat) (statement : OpenStatement) :
    Cut n (some statement) [] (.stop (.unterminatedSql statement.lineNumber statement.text))
      [] none [] where
  ahead _ := rfl
  upTo := rfl
  whatever := nofun
  atEnd _ := ⟨rfl, _, _, rfl⟩

theorem Cut.scanned {n : Nat} {statement : Option OpenStatement} {line : String} {item : Item}
    (h : (scan (n + 1) statement line).1 = some item) (after : List SourceLine) :
    Cut n statement [] item [] (some (.ok line)) after where
  ahead _ := rfl
  upTo := by simp [itemsFrom_cons, h, scan_left h, itemsFrom]
  whatever := by
    rintro _ ⟨⟩ other
    simp [itemsFrom_cons, h]
  atEnd := nofun

theorem Cut.cons {n : Nat} {statement : Option OpenStatement} {line : String} {done : List Item}
    {item : Item} {before after : List SourceLine} {failing : Option SourceLine}
    (h : Cut (n + 1) (scan (n + 1) statement line).2 done item before failing after) :
    Cut n statement ((scan (n + 1) statement line).1.toList ++ done) item (.ok line :: before)
      failing after where
  ahead fault := by simp [itemsFrom_cons, h.ahead]
  upTo := by simp [itemsFrom_cons, h.upTo]
  whatever first hFirst other := by
    obtain ⟨more, hMore⟩ := h.whatever first hFirst other
    exact ⟨more, by simp [itemsFrom_cons, hMore]⟩
  atEnd := h.atEnd

/-- Every item has a place in the lines. -/
theorem itemsFrom_cut {n : Nat} {statement : Option OpenStatement} {lines : List SourceLine}
    {done rest : List Item} {item : Item} (h : itemsFrom n statement lines = done ++ item :: rest) :
    ∃ before failing after, lines = before ++ failing.toList ++ after ∧
      Cut n statement done item before failing after := by
  induction lines generalizing n statement done with
  | nil =>
    cases statement with
    | none => simp [itemsFrom] at h
    | some statement =>
      obtain ⟨rfl, hItem⟩ | ⟨rfl, hNone⟩ := List.append_eq_singleton_iff.mp h.symm
      · cases hItem
        exact ⟨[], none, [], rfl, .unterminated n statement⟩
      · cases hNone
  | cons line after ih =>
    cases line with
    | error fault =>
      obtain ⟨rfl, hItem⟩ | ⟨rfl, hNone⟩ := List.append_eq_singleton_iff.mp h.symm
      · cases hItem
        exact ⟨[], some (.error fault), after, rfl, .unreadable n statement fault after⟩
      · cases hNone
    | ok line =>
      rw [itemsFrom_cons] at h
      -- The line completes the first item, or the items all come from the lines after it.
      have hLater {done : List Item}
          (h : itemsFrom (n + 1) (scan (n + 1) statement line).2 after = done ++ item :: rest) :
          ∃ before failing later, Except.ok line :: after = before ++ failing.toList ++ later ∧
            Cut n statement ((scan (n + 1) statement line).1.toList ++ done) item before failing
              later := by
        obtain ⟨before, failing, later, rfl, hCut⟩ := ih h
        exact ⟨.ok line :: before, failing, later, by simp, hCut.cons⟩
      cases hScan : (scan (n + 1) statement line).1 with
      | none =>
        rw [hScan] at h hLater
        exact hLater h
      | some first =>
        rw [hScan] at h hLater
        obtain _ | ⟨_, done⟩ := done
        · obtain ⟨rfl, -⟩ := List.cons.inj h
          exact ⟨[], some (.ok line), after, rfl, .scanned hScan after⟩
        · obtain ⟨rfl, hRest⟩ := List.cons.inj h
          exact hLater hRest

section Through

variable (backend : Backend σ) (settings : BlockSettings)

/-- What an update does at an item. -/
def Item.perform (reached : Reached) : Item → Action σ Reached
  | .statement text => reached.execute backend text
  | .header line => do (← reached.close backend).start backend settings line
  | .row n line => ExceptT.mk (pure (reached.addRow n line))
  | .stop e => throw e

/-- Goes through items, and leaves the last block open. -/
def through (reached : Reached) (items : List Item) : Action σ Reached :=
  items.foldlM (Item.perform backend settings) reached

theorem through_nil (reached : Reached) (session : Session σ) :
    through backend settings reached [] session = (.ok reached, session) := rfl

theorem through_cons (reached : Reached) (item : Item) (rest : List Item) (session : Session σ) :
    through backend settings reached (item :: rest) session =
      match item.perform backend settings reached session with
      | (.ok reached, session) => through backend settings reached rest session
      | (.error e, session) => (.error e, session) := by
  rw [through, List.foldlM_cons, Action.bind_apply]
  rcases item.perform backend settings reached session with ⟨_ | _, _⟩ <;> rfl

theorem through_append (reached : Reached) (done rest : List Item) (session : Session σ) :
    through backend settings reached (done ++ rest) session =
      match through backend settings reached done session with
      | (.ok reached, session) => through backend settings reached rest session
      | (.error e, session) => (.error e, session) := by
  rw [through, List.foldlM_append, Action.bind_apply, through]
  rcases List.foldlM (Item.perform backend settings) reached done session with ⟨_ | _, _⟩ <;> rfl

/-- The end of a file closes the last block. -/
def Reached.finish (reached : Reached) : Action σ ApplyReport := do
  return (← reached.close backend).report

theorem Reached.finish_apply (reached : Reached) (session : Session σ) :
    reached.finish backend session =
      ((reached.close backend session).1.map Reached.report,
        (reached.close backend session).2) := by
  rw [finish, Action.bind_apply]
  rcases reached.close backend session with ⟨_ | _, _⟩ <;> rfl

theorem run_eq_through (items : List Item) (reached : Reached) (session : Session σ) :
    ((run backend settings reached items session).1.result,
        (run backend settings reached items session).2) =
      (through backend settings reached items >>= Reached.finish backend) session := by
  rw [Action.bind_apply]
  induction items generalizing reached session with
  | nil =>
    rw [through_nil]
    simp only [run, advance, Reached.finish_apply]
    rcases reached.close backend session with ⟨_ | _, _⟩ <;> rfl
  | cons item rest ih =>
    rw [through_cons]
    cases item with
    | statement text =>
      simp only [run, advance, Item.perform]
      rcases reached.execute backend text session with ⟨_ | next, after⟩
      · rfl
      · exact ih next after
    | header line =>
      simp only [run, advance, Item.perform, Action.bind_apply]
      rcases reached.close backend session with ⟨_ | closed, middle⟩
      · rfl
      · simp only
        rcases closed.start backend settings line middle with ⟨_ | next, after⟩
        · rfl
        · exact ih next after
    | row n line =>
      simp only [run, advance, Item.perform, Action.mk_pure_apply]
      rcases reached.addRow n line with _ | next
      · rfl
      · exact ih next session
    | stop e => rfl

/-- An update goes through the items of the file and then closes the last block. -/
theorem apply_eq_through (lines : List SourceLine) :
    UpdateFile.apply backend settings lines =
      (through backend settings {} (items lines) >>= Reached.finish backend : Action σ _) := by
  funext session
  rw [apply_eq_run]
  exact run_eq_through backend settings (items lines) {} session

end Through

variable {backend : Backend σ} {settings : BlockSettings}

theorem Reached.close_error {reached : Reached} {session : Session σ} {e : UpdateError}
    (h : (reached.close backend session).1 = .error e) :
    ∃ block, reached.block = some block ∧ (block.apply backend session).1.1 = .error e := by
  rw [close] at h
  cases hBlock : reached.block with
  | none =>
    rw [hBlock] at h
    cases h
  | some block =>
    refine ⟨block, rfl, ?_⟩
    simp only [hBlock] at h
    rcases hApply : block.apply backend session with ⟨⟨_ | _, _⟩, _⟩ <;>
      rw [hApply] at h <;> cases h
    rfl

/-- Items that cannot be gone through fail at one of them. -/
theorem through_error {items : List Item} {reached : Reached} {session after : Session σ}
    {e : UpdateError} (h : through backend settings reached items session = (.error e, after)) :
    ∃ done item rest next middle, items = done ++ item :: rest ∧
      through backend settings reached done session = (.ok next, middle) ∧
      item.perform backend settings next middle = (.error e, after) := by
  induction items generalizing reached session with
  | nil => cases h
  | cons item rest ih =>
    rw [through_cons] at h
    rcases hItem : item.perform backend settings reached session with ⟨_ | next, middle⟩ <;>
      rw [hItem] at h
    · cases h
      exact ⟨[], item, rest, reached, session, rfl, rfl, hItem⟩
    · obtain ⟨done, failing, later, last, ended, rfl, hDone, hFails⟩ := ih h
      refine ⟨item :: done, failing, later, last, ended, rfl, ?_, hFails⟩
      rw [through_cons, hItem]
      exact hDone

/-- An update ends where it fails at an item, whatever follows. -/
theorem apply_of_failing {lines : List SourceLine} {done rest : List Item} {item : Item}
    {next : Reached} {session middle after : Session σ} {e : UpdateError}
    (hItems : items lines = done ++ item :: rest)
    (hDone : through backend settings {} done session = (.ok next, middle))
    (hFails : item.perform backend settings next middle = (.error e, after)) :
    UpdateFile.apply backend settings lines session = (.error e, after) := by
  rw [apply_eq_through, Action.bind_apply, hItems, through_append, hDone]
  simp only
  rw [through_cons, hFails]

/-- An update that succeeds has read its file to the end. -/
theorem apply_not_stop {lines : List SourceLine} {session : Session σ} {report : ApplyReport}
    (h : (UpdateFile.apply backend settings lines session).1 = .ok report) (e : UpdateError) :
    .stop e ∉ items lines := by
  intro hMem
  obtain ⟨done, rest, hItems⟩ := List.append_of_mem hMem
  rw [apply_eq_through, Action.bind_apply, hItems, through_append] at h
  rcases hDone : through backend settings {} done session with ⟨_ | next, middle⟩ <;>
    rw [hDone] at h
  · cases h
  · simp only [through_cons] at h
    cases h

section Corresponds

variable {τ : Type} {R : Session τ → Session σ → Prop} {first : Backend τ} {second : Backend σ}

theorem Item.perform_corresponds (h : Backend.Matches R first second) (settings : BlockSettings)
    (reached : Reached) (item : Item) :
    Corresponds R (item.perform first settings reached) (item.perform second settings reached) := by
  cases item with
  | statement text => exact (h.query text).discard.step fun _ => .ok _
  | header line =>
    have hAligned := h.aligned settings [.header line]
    exact (hAligned.close fun _ _ => trivial).step fun closed => hAligned.start closed
  | row n line => exact fun _ _ hRelated => ⟨rfl, hRelated⟩
  | stop e => exact .throw e

theorem through_corresponds (h : Backend.Matches R first second) (settings : BlockSettings)
    (reached : Reached) (items : List Item) :
    Corresponds R (through first settings reached items)
      (through second settings reached items) := by
  induction items generalizing reached with
  | nil => exact .ok reached
  | cons item rest ih =>
    rw [through, through, List.foldlM_cons, List.foldlM_cons]
    exact (item.perform_corresponds h settings reached).step ih

end Corresponds

theorem Item.perform_mirrors (backend : Backend σ) (settings : BlockSettings) (reached : Reached)
    (item : Item) :
    Mirrors (item.perform backend.recorded settings reached)
      (item.perform backend settings reached) :=
  mirrors_iff.mpr (item.perform_corresponds backend.recorded_matches settings reached)

theorem through_mirrors (backend : Backend σ) (settings : BlockSettings) (reached : Reached)
    (items : List Item) :
    Mirrors (through backend.recorded settings reached items)
      (through backend settings reached items) :=
  mirrors_iff.mpr (through_corresponds backend.recorded_matches settings reached items)

end UpdateFile

end ValidityTables
