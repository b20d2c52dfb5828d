import ValidityTables.Proofs.FileSteps

/-! # The places of items

Only rows and raw statements know where in their file they stand, and all that comes of it is a
number in an error. So where the lines of a file move, the same items are gone through in the same
way, and at most an error names another line. An error that a statement was answered with is never
touched, whatever it names.
-/

namespace ValidityTables

variable {σ α β : Type}

/-- The error where line `n` is line `place n`. -/
def UpdateError.moved (place : Nat → Nat) : UpdateError → UpdateError
  | .rowOutsideBlock n => .rowOutsideBlock (place n)
  | .unterminatedSql n statement => .unterminatedSql (place n) statement
  | e => e

namespace UpdateFile

def OpenStatement.moved (place : Nat → Nat) (statement : OpenStatement) : OpenStatement :=
  { statement with lineNumber := place statement.lineNumber }

/-- The item where line `n` is line `place n`, and the error of a file that cannot be read further
is another one. -/
def Item.moved (place : Nat → Nat) (stop : UpdateError → UpdateError) : Item → Item
  | .row n line => .row (place n) line
  | .stop e => .stop (stop e)
  | item => item

theorem OpenStatement.settle_moved (place : Nat → Nat) (stop : UpdateError → UpdateError)
    (statement : OpenStatement) : (statement.moved place).settle =
      (statement.settle.1.map (Item.moved place stop),
        statement.settle.2.map (OpenStatement.moved place)) := by
  have hComplete : (statement.moved place).isComplete = statement.isComplete := rfl
  rw [settle, settle, hComplete]
  cases statement.isComplete <;> rfl

theorem scan_moved (place : Nat → Nat) (stop : UpdateError → UpdateError) (n : Nat)
    (statement : Option OpenStatement) (line : String) :
    scan (place n) (statement.map (OpenStatement.moved place)) line =
      ((scan n statement line).1.map (Item.moved place stop),
        (scan n statement line).2.map (OpenStatement.moved place)) := by
  cases statement with
  | some statement =>
    exact OpenStatement.settle_moved place stop
      { statement with pieces := Text.edit Text.trim line :: statement.pieces }
  | none =>
    simp only [Option.map_none, scan]
    cases LineKind.ofLine line with
    | statement text =>
      exact OpenStatement.settle_moved place stop { lineNumber := n, pieces := [text] }
    | skipped | header | row => rfl

/-- An error that names no line of the file, or that a statement was answered with. -/
inductive Placeless (backend : Backend σ) (e : UpdateError) : Prop
  | unmoved : (∀ place, e.moved place = e) → Placeless backend e
  | answered {sql : String} {world : σ} : (backend.services.execute sql world).1 = .error e →
      Placeless backend e

section Errors

variable {backend : Backend σ} {settings : BlockSettings} {session : Session σ} {e : UpdateError}

theorem attempt_placeless {sql : String} {left : Nat}
    (h : (backend.attempt sql left session).1 = .error e) : Placeless backend e := by
  induction left generalizing session with
  | zero =>
    cases h
    exact .unmoved fun _ => rfl
  | succ left ih =>
    rw [Backend.attempt] at h
    rcases hAnswer : backend.services.execute sql session.world with ⟨answer | reply, world⟩ <;>
      simp only [hAnswer] at h
    · cases h
      exact .answered (congrArg Prod.fst hAnswer)
    · split at h
      · exact ih h
      · split at h
        · cases h
        · cases h
          exact .unmoved fun _ => rfl

theorem tableExists_placeless {table : String}
    (h : (backend.tableExists table session).1 = .error e) : Placeless backend e := by
  rw [Backend.tableExists] at h
  cases hProbe : backend.services.probe table session.world with
  | none =>
    rw [hProbe] at h
    cases h
  | some sql =>
    rw [hProbe] at h
    rcases hQuery : backend.query sql session with ⟨cause | lines, after⟩ <;>
      simp only [hQuery] at h
    · have hPlaceless : Placeless backend cause :=
        attempt_placeless (congrArg Prod.fst hQuery)
      cases cause <;> cases h <;> exact hPlaceless
    · cases h

theorem begin_placeless {line : String}
    (h : (Block.begin backend settings line session).1 = .error e) : Placeless backend e := by
  rw [Block.begin] at h
  cases hParse : Header.parse line with
  | error reason =>
    rw [hParse] at h
    cases h
  | ok header =>
    simp only [hParse, Action.bind_apply] at h
    rcases hExists : backend.tableExists header.table session with ⟨cause | found, after⟩ <;>
      simp only [hExists] at h
    · cases h
      exact tableExists_placeless (congrArg Prod.fst hExists)
    · cases found with
      | false => cases h
      | true => cases hDates : header.checkDates line <;> rw [hDates] at h <;> cases h

theorem close_placeless {reached : Reached} (h : (reached.close backend session).1 = .error e) :
    Placeless backend e := by
  obtain ⟨block, hBlock, hFails⟩ := Reached.close_error h
  obtain ⟨settings, stage⟩ := block
  apply Placeless.unmoved
  intro place
  cases stage with
  | ready header rows =>
    obtain rfl | ⟨source, rfl⟩ := Block.apply_ready hFails
    · rfl
    · rfl
  | refused reason | applied | failed =>
    cases hFails
    rfl

theorem start_placeless {reached : Reached} {line : String}
    (h : (reached.start backend settings line session).1 = .error e) : Placeless backend e := by
  rw [Reached.start, Action.bind_apply] at h
  rcases hBegin : Block.begin backend settings line session with ⟨cause | block, after⟩ <;>
    simp only [hBegin] at h
  · cases h
    exact begin_placeless (congrArg Prod.fst hBegin)
  · cases hRefusal : block.stage.refusal? with
    | none =>
      rw [hRefusal] at h
      cases h
    | some reason =>
      rw [hRefusal] at h
      cases h
      exact .unmoved fun _ => rfl

theorem addRow_placeless {block : Block} {line : String} (h : block.addRow line = .error e) :
    Placeless backend e := by
  unfold Block.addRow at h
  split at h <;> cases h
  exact .unmoved fun _ => rfl

theorem execute_placeless {reached : Reached} {text : String}
    (h : (reached.execute backend text session).1 = .error e) : Placeless backend e := by
  rw [Reached.execute, Action.bind_apply, Action.discard_apply] at h
  rcases hQuery : backend.query text session with ⟨cause | lines, after⟩ <;> rw [hQuery] at h <;>
    cases h
  exact attempt_placeless (congrArg Prod.fst hQuery)

end Errors

/-- What comes of an error where line `n` is line `place n`. -/
inductive Moves (backend : Backend σ) (place : Nat → Nat) (e : UpdateError) : UpdateError → Prop
  | moved : Moves backend place e (e.moved place)
  | answered {sql : String} {world : σ} : (backend.services.execute sql world).1 = .error e →
      Moves backend place e e

theorem Placeless.moves {backend : Backend σ} {e : UpdateError} (h : Placeless backend e)
    (place : Nat → Nat) : Moves backend place e e := by
  cases h with
  | unmoved hUnmoved =>
    have hMoved : Moves backend place e (e.moved place) := .moved
    rwa [hUnmoved place] at hMoved
  | answered hAnswer => exact .answered hAnswer

/-- Two results that are the same up to the place of an error. -/
inductive Displaced (backend : Backend σ) (place : Nat → Nat) :
    Except UpdateError α → Except UpdateError α → Prop
  | ok (a : α) : Displaced backend place (.ok a) (.ok a)
  | error {e last : UpdateError} : Moves backend place e last →
      Displaced backend place (.error e) (.error last)

/-- Two actions that do the same, up to the place of an error. -/
def Displaces (backend : Backend σ) (place : Nat → Nat) (first second : Action σ α) : Prop :=
  ∀ session, (second session).2 = (first session).2 ∧
    Displaced backend place (first session).1 (second session).1

section Through

variable {backend : Backend σ} {place : Nat → Nat}

theorem Displaces.placeless {action : Action σ α}
    (h : ∀ session e, (action session).1 = .error e → Placeless backend e) :
    Displaces backend place action action := by
  intro session
  refine ⟨rfl, ?_⟩
  cases hResult : (action session).1 with
  | ok a => exact .ok a
  | error e => exact .error ((h session e hResult).moves place)

theorem Displaces.bind {first second : Action σ α} {next following : α → Action σ β}
    (h : Displaces backend place first second)
    (hNext : ∀ a, Displaces backend place (next a) (following a)) :
    Displaces backend place (first >>= next : Action σ β) (second >>= following : Action σ β) := by
  intro session
  obtain ⟨hSession, hDisplaced⟩ := h session
  rw [Action.bind_apply, Action.bind_apply]
  rcases hFirst : first session with ⟨result, middle⟩
  rcases hSecond : second session with ⟨other, after⟩
  rw [hFirst, hSecond] at hSession hDisplaced
  obtain rfl : after = middle := hSession
  cases hDisplaced with
  | ok a => exact hNext a after
  | error hMoves => exact ⟨rfl, .error hMoves⟩

theorem Reached.addRow_displaced (reached : Reached) (n : Nat) (line : String) :
    Displaced backend place (reached.addRow n line) (reached.addRow (place n) line) := by
  unfold Reached.addRow
  cases reached.block with
  | none => exact .error .moved
  | some block =>
    cases hAdded : block.addRow line with
    | ok added =>
      simp only [hAdded, Except.map]
      exact .ok _
    | error e =>
      simp only [hAdded, Except.map]
      exact .error ((addRow_placeless hAdded).moves place)

variable (settings : BlockSettings)

theorem Item.perform_moved (reached : Reached) (item : Item) :
    Displaces backend place (item.perform backend settings reached)
      ((item.moved place (UpdateError.moved place)).perform backend settings reached) := by
  cases item with
  | statement text => exact .placeless fun session e hError => execute_placeless hError
  | header line =>
    apply Displaces.bind
    · exact .placeless fun session e hError => close_placeless hError
    · intro closed
      exact .placeless fun session e hError => start_placeless hError
  | row n line => exact fun session => ⟨rfl, reached.addRow_displaced n line⟩
  | stop e => exact fun session => ⟨rfl, .error .moved⟩

/-- Items that stand at other places are gone through in the same way. -/
theorem through_moved (reached : Reached) (items : List Item) :
    Displaces backend place (through backend settings reached items)
      (through backend settings reached
        (items.map (Item.moved place (UpdateError.moved place)))) := by
  induction items generalizing reached with
  | nil => exact fun session => ⟨rfl, .ok reached⟩
  | cons item rest ih =>
    rw [List.map_cons, through, through, List.foldlM_cons, List.foldlM_cons]
    exact (item.perform_moved settings reached).bind ih

theorem Reached.finish_placeless (reached : Reached) :
    Displaces backend place (reached.finish backend) (reached.finish backend) := by
  apply Displaces.bind
  · exact .placeless fun session e hError => close_placeless hError
  · exact fun closed session => ⟨rfl, .ok closed.report⟩

end Through

end UpdateFile

end ValidityTables
