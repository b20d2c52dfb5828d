import ValidityTables.UpdateFile
import Mathlib.Data.List.TakeWhile

/-! # The grammar of update files

Each line of a file has a role, which depends on the lines before it. A file is grammatical if all
of its lines can be read, its raw statements and headers are complete and sound, and its rows stand
in sections that have some. What breaks the grammar is noticed at a line or at the end of the file,
and only there; `grammatical_iff` says that a file is grammatical if and only if nothing is
noticed.
-/

namespace ValidityTables.UpdateFile

/-- What a line is in its file. A line of a raw statement comes with the number of the first line of
the statement, and with the text of the statement up to this line. -/
inductive LineRole
  | unreadable (fault : IoFault)
  | skipped
  | statement (start : Nat) (text : String)
  | header (line : String)
  | row
  deriving DecidableEq, Repr

def LineRole.isEntry : LineRole → Bool
  | .header _ | .row => true
  | _ => false

def terminated (text : String) : Bool := text.toList.getLast? == some ';'

theorem OpenStatement.text_push (statement : OpenStatement) (piece : String) :
    OpenStatement.text { statement with pieces := piece :: statement.pieces } =
      statement.text ++ piece := by
  simp [OpenStatement.text, String.join]

/-- An empty line completes nothing, so that only the last line of a statement is looked at. -/
theorem OpenStatement.isComplete_push (statement : OpenStatement) (piece : String)
    (h : terminated statement.text = false) :
    OpenStatement.isComplete { statement with pieces := piece :: statement.pieces } =
      terminated (statement.text ++ piece) := by
  change (piece.toList.getLast? == some ';') = _
  unfold terminated at h ⊢
  rw [String.toList_append, List.getLast?_append]
  cases piece.toList.getLast? with
  | none => exact h.symm
  | some c => rfl

/-- The raw statement that is open after some lines. -/
def unfinished? (before : List LineRole) : Option (Nat × String) :=
  match before.getLast? with
  | some (.statement start text) => if terminated text then none else some (start, text)
  | _ => none

/-- The role of a line after other lines. What a line outside of a raw statement looks like is said
on its text by `ofLine_skipped_iff`, `ofLine_statement_iff`, `ofLine_header_iff` and
`ofLine_row_iff`. -/
def roleAfter (before : List LineRole) : SourceLine → LineRole
  | .error fault => .unreadable fault
  | .ok line =>
    match unfinished? before with
    | some (start, text) => .statement start (text ++ Text.edit Text.trim line)
    | none =>
      match LineKind.ofLine line with
      | .skipped => .skipped
      | .statement text => .statement (before.length + 1) text
      | .header => .header line
      | .row => .row

def rolesFrom (before : List LineRole) : List SourceLine → List LineRole
  | [] => before
  | line :: rest => rolesFrom (before ++ [roleAfter before line]) rest

/-- The roles of the lines of a file. -/
def roles (lines : List SourceLine) : List LineRole := rolesFrom [] lines

/-- The reason to refuse a header line, if there is one. -/
def refusal? (line : String) : Option BlockError :=
  match Header.parse line with
  | .error reason => some reason
  | .ok header =>
    match header.checkDates line with
    | .error reason => some reason
    | .ok () => none

/-- The header of the section that is open after some lines, as long as it has no row. -/
def emptySection? (before : List LineRole) : Option Header :=
  match before.reverse.find? LineRole.isEntry with
  | some (.header line) => (Header.parse line).toOption
  | _ => none

def Readable (roles : List LineRole) : Prop := ∀ fault, .unreadable fault ∉ roles

/-- The grammar of files whose lines can all be read. -/
structure Grammatical (roles : List LineRole) : Prop where
  completed : ∀ before start text after, roles = before ++ .statement start text :: after →
    terminated text = true ∨ ∃ longer, .statement start longer ∈ after ∧ terminated longer = true
  headers : ∀ line, .header line ∈ roles → refusal? line = none
  inside : ∀ before after, roles = before ++ .row :: after → ∃ line, .header line ∈ before
  filled : ∀ before line after, roles = before ++ .header line :: after →
    ∃ between rest, after = between ++ .row :: rest ∧ ∀ other, .header other ∉ between

/-- What is noticed after some lines: at the next line, or at the end of the file. A section without
rows is noticed before the next header is looked at, and an open raw statement before it. -/
inductive Violation (before : List LineRole) : Option LineRole → UpdateError → Prop
  | unreadable (fault : IoFault) : Violation before (some (.unreadable fault)) (.io fault)
  | empty {line : String} {header : Header} : emptySection? before = some header →
      Violation before (some (.header line)) (.block (.empty header.table))
  | refused {line : String} {reason : BlockError} : emptySection? before = none →
      refusal? line = some reason → Violation before (some (.header line)) (.block reason)
  | outside : (∀ line, .header line ∉ before) →
      Violation before (some .row) (.rowOutsideBlock (before.length + 1))
  | unterminated {start : Nat} {text : String} : unfinished? before = some (start, text) →
      Violation before none (.unterminatedSql start text)
  | emptyAtEnd {header : Header} : unfinished? before = none →
      emptySection? before = some header → Violation before none (.block (.empty header.table))

/-- Nothing is noticed at any of these lines. -/
def Clean (before : List LineRole) : Prop :=
  ∀ {front role rest}, before = front ++ role :: rest → ∀ e, ¬Violation front (some role) e

/-- The error is that of what is noticed first. -/
def FirstViolation (roles : List LineRole) (e : UpdateError) : Prop :=
  ∃ before rest, roles = before ++ rest ∧ Clean before ∧ Violation before rest.head? e

theorem Violation.unique {before : List LineRole} {role : Option LineRole} {e other : UpdateError}
    (h : Violation before role e) (hOther : Violation before role other) : other = e := by
  cases h with
  | unreadable fault => cases hOther; rfl
  | empty hEmpty | refused hEmpty hRefusal | unterminated hEmpty | emptyAtEnd hEmpty hSection =>
    cases hOther <;> simp_all
  | outside => cases hOther; rfl

theorem Clean.nil : Clean [] := by
  intro front role rest h
  simp at h

theorem Clean.push {before : List LineRole} {role : LineRole} (h : Clean before)
    (hRole : ∀ e, ¬Violation before (some role) e) : Clean (before ++ [role]) := by
  intro front other rest hSplit
  obtain rfl | ⟨rest, last, rfl⟩ := rest.eq_nil_or_concat
  · obtain ⟨rfl, hSame⟩ := List.append_inj' hSplit rfl
    cases hSame
    exact hRole
  · rw [List.concat_eq_append, ← List.cons_append, ← List.append_assoc] at hSplit
    obtain ⟨hFront, -⟩ := List.append_inj' hSplit rfl
    exact h hFront

/-- Of two places one comes first, and a place that is noticed is not behind another one. -/
theorem FirstViolation.unique {roles : List LineRole} {e other : UpdateError}
    (h : FirstViolation roles e) (hOther : FirstViolation roles other) : other = e := by
  obtain ⟨before, rest, rfl, hClean, hViolation⟩ := h
  obtain ⟨earlier, later, hSplit, hCleanEarlier, hViolationEarlier⟩ := hOther
  obtain ⟨between, hBetween, hRest⟩ | ⟨between, hBetween, hRest⟩ :=
    List.append_eq_append_iff.mp hSplit
  · cases between with
    | nil =>
      obtain rfl : earlier = before := by simpa using hBetween
      obtain rfl : rest = later := by simpa using hRest
      exact hViolation.unique hViolationEarlier
    | cons role between =>
      rw [hRest] at hViolation
      exact absurd hViolation (hCleanEarlier hBetween e)
  · cases between with
    | nil =>
      obtain rfl : before = earlier := by simpa using hBetween
      obtain rfl : later = rest := by simpa using hRest
      exact hViolation.unique hViolationEarlier
    | cons role between =>
      rw [hRest] at hViolationEarlier
      exact absurd hViolationEarlier (hClean hBetween other)

/-- What is noticed first is not there if nothing is noticed. -/
theorem FirstViolation.not_clean {roles : List LineRole} {e : UpdateError}
    (h : FirstViolation roles e) (hClean : Clean roles) : Violation roles none e := by
  obtain ⟨before, rest, rfl, -, hViolation⟩ := h
  cases rest with
  | nil => simpa using hViolation
  | cons role rest => exact absurd hViolation (hClean rfl e)

theorem rolesFrom_append (lines : List SourceLine) (before : List LineRole) :
    ∃ later, rolesFrom before lines = before ++ later := by
  induction lines generalizing before with
  | nil => exact ⟨[], (List.append_nil before).symm⟩
  | cons line rest ih =>
    obtain ⟨later, hLater⟩ := ih (before ++ [roleAfter before line])
    exact ⟨roleAfter before line :: later, by rw [rolesFrom, hLater, List.append_assoc]; rfl⟩

/-- Each role is that of a line after the roles before it. -/
theorem rolesFrom_split {lines : List SourceLine} {start before after : List LineRole}
    {role : LineRole} (h : rolesFrom start lines = before ++ role :: after)
    (hStart : start.length ≤ before.length) : ∃ line, role = roleAfter before line := by
  induction lines generalizing start with
  | nil =>
    have hLength := congrArg List.length h
    simp only [rolesFrom, List.length_append, List.length_cons] at hLength
    omega
  | cons line rest ih =>
    rw [rolesFrom] at h
    obtain hSame | hLonger := Nat.eq_or_lt_of_le hStart
    · obtain ⟨later, hLater⟩ := rolesFrom_append rest (start ++ [roleAfter start line])
      rw [hLater, List.append_assoc] at h
      obtain ⟨rfl, hRole⟩ := List.append_inj h hSame
      exact ⟨line, (List.cons.inj hRole).1.symm⟩
    · exact ih h (by simpa using Nat.succ_le_of_lt hLonger)

theorem roles_split {lines : List SourceLine} {before after : List LineRole} {role : LineRole}
    (h : roles lines = before ++ role :: after) : ∃ line, role = roleAfter before line :=
  rolesFrom_split h (Nat.zero_le _)

section Grammar

variable {lines : List SourceLine}

theorem completed_of_clean (hClean : Clean (roles lines))
    (hEnd : ∀ e, ¬Violation (roles lines) none e) {before after : List LineRole} {start : Nat}
    {text : String} (h : roles lines = before ++ .statement start text :: after) :
    terminated text = true ∨
      ∃ longer, .statement start longer ∈ after ∧ terminated longer = true := by
  -- A statement that is open goes on with every line after it.
  induction after generalizing before text with
  | nil =>
    cases hText : terminated text with
    | true => exact .inl rfl
    | false =>
      refine absurd (.unterminated ?_) (hEnd (.unterminatedSql start text))
      simp [unfinished?, h, hText]
  | cons role after ih =>
    cases hText : terminated text with
    | true => exact .inl rfl
    | false =>
      have hNext : roles lines = (before ++ [.statement start text]) ++ role :: after := by
        rw [h, List.append_assoc]
        rfl
      have hOpen : unfinished? (before ++ [.statement start text]) = some (start, text) := by
        simp [unfinished?, hText]
      obtain ⟨line, hRole⟩ := roles_split hNext
      cases line with
      | error fault =>
        rw [roleAfter] at hRole
        rw [hRole] at hNext
        exact absurd (.unreadable fault) (hClean hNext _)
      | ok line =>
        simp only [roleAfter, hOpen] at hRole
        rw [hRole] at hNext ⊢
        obtain hLonger | ⟨longer, hMem, hLonger⟩ := ih hNext
        · exact .inr ⟨_, List.mem_cons_self, hLonger⟩
        · exact .inr ⟨longer, List.mem_cons_of_mem _ hMem, hLonger⟩

/-- The section of a header is empty as long as neither a row nor a header follows. -/
theorem emptySection?_of_split {before between : List LineRole} {line : String} {header : Header}
    (hParse : Header.parse line = .ok header) (hBetween : ∀ role ∈ between, role.isEntry = false) :
    emptySection? (before ++ .header line :: between) = some header := by
  have hNone : between.reverse.find? LineRole.isEntry = none := by
    simpa using hBetween
  have hFind : (before ++ .header line :: between).reverse.find? LineRole.isEntry =
      some (.header line) := by
    simp [List.find?_append, hNone, LineRole.isEntry]
  rw [emptySection?, hFind]
  simp [hParse, Except.toOption]

theorem emptySection?_split {before : List LineRole} {header : Header}
    (h : emptySection? before = some header) :
    ∃ front line between, before = front ++ .header line :: between ∧
      ∀ role ∈ between, role.isEntry = false := by
  unfold emptySection? at h
  split at h
  · rename_i line hFind
    obtain ⟨-, later, earlier, hReverse, hLater⟩ := List.find?_eq_some_iff_append.mp hFind
    refine ⟨earlier.reverse, line, later.reverse, ?_, ?_⟩
    · rw [← List.reverse_reverse before, hReverse]
      simp
    · intro role hMem
      simpa using hLater role (List.mem_reverse.mp hMem)
  · cases h

/-- In a grammatical file an empty section goes on with a row. -/
theorem Grammatical.row_after {roles before rest : List LineRole} (h : Grammatical roles)
    (hRoles : roles = before ++ rest) {header : Header}
    (hEmpty : emptySection? before = some header) :
    ∃ between later, rest = between ++ .row :: later ∧ ∀ line, .header line ∉ between := by
  obtain ⟨front, line, gap, rfl, hGap⟩ := emptySection?_split hEmpty
  obtain ⟨between, later, hAfter, hBetween⟩ :=
    h.filled front line (gap ++ rest) (by rw [hRoles, List.append_assoc]; rfl)
  obtain ⟨more, rfl, hRest⟩ | ⟨more, rfl, hRow⟩ := List.append_eq_append_iff.mp hAfter
  · exact ⟨more, later, hRest, fun other hMem => hBetween other (List.mem_append_right _ hMem)⟩
  · cases more with
    | nil => exact ⟨[], later, hRow.symm, by simp⟩
    | cons role more =>
      obtain ⟨rfl, -⟩ := List.cons.inj hRow
      cases hGap .row (by simp)

theorem Grammatical.clean {roles : List LineRole} (h : Grammatical roles)
    (hReadable : Readable roles) : Clean roles := by
  intro front role rest hSplit e hViolation
  have hMem : role ∈ roles := by simp [hSplit]
  cases hViolation with
  | unreadable fault => exact hReadable fault hMem
  | empty hEmpty =>
    obtain ⟨between, later, hRow, hBetween⟩ := h.row_after hSplit hEmpty
    cases between with
    | nil => cases hRow
    | cons other between =>
      obtain ⟨rfl, -⟩ := List.cons.inj hRow
      exact hBetween _ List.mem_cons_self
  | refused hNone hRefusal =>
    rw [h.headers _ hMem] at hRefusal
    cases hRefusal
  | outside hOutside =>
    obtain ⟨line, hHeader⟩ := h.inside front rest hSplit
    exact hOutside line hHeader

theorem Grammatical.end {roles : List LineRole} (h : Grammatical roles) (e : UpdateError) :
    ¬Violation roles none e := by
  intro hViolation
  cases hViolation with
  | @unterminated start text hOpen =>
    unfold unfinished? at hOpen
    split at hOpen
    · rename_i first longer hLast
      split at hOpen
      · cases hOpen
      · rename_i hText
        cases hOpen
        obtain ⟨before, hRoles⟩ := List.getLast?_eq_some_iff.mp hLast
        obtain hDone | ⟨_, hMem, -⟩ := h.completed before start text [] hRoles
        · exact hText hDone
        · cases hMem
    · cases hOpen
  | emptyAtEnd _ hEmpty =>
    obtain ⟨between, later, hRow, -⟩ := h.row_after (List.append_nil roles).symm hEmpty
    simp at hRow

theorem headers_of_clean {roles : List LineRole} (hClean : Clean roles) {line : String}
    (hMem : .header line ∈ roles) : refusal? line = none := by
  obtain ⟨before, after, hSplit⟩ := List.append_of_mem hMem
  cases hEmpty : emptySection? before with
  | some header => exact absurd (.empty hEmpty) (hClean hSplit _)
  | none =>
    cases hRefusal : refusal? line with
    | none => rfl
    | some reason => exact absurd (.refused hEmpty hRefusal) (hClean hSplit _)

theorem parse_of_refusal? {line : String} (h : refusal? line = none) :
    ∃ header, Header.parse line = .ok header := by
  unfold refusal? at h
  split at h
  · cases h
  · exact ⟨_, ‹_›⟩

theorem filled_of_clean {roles : List LineRole} (hClean : Clean roles)
    (hEnd : ∀ e, ¬Violation roles none e) {before after : List LineRole} {line : String}
    (h : roles = before ++ .header line :: after) :
    ∃ between rest, after = between ++ .row :: rest ∧ ∀ other, .header other ∉ between := by
  have hMem : .header line ∈ roles := by simp [h]
  obtain ⟨header, hParse⟩ := parse_of_refusal? (headers_of_clean hClean hMem)
  -- What comes before the next row or header belongs to the section.
  let between := after.takeWhile fun role => !role.isEntry
  have hAfter : after = between ++ after.dropWhile fun role => !role.isEntry :=
    (List.takeWhile_append_dropWhile ..).symm
  have hBetween : ∀ role ∈ between, role.isEntry = false := by
    intro role hMem
    simpa using List.mem_takeWhile_imp hMem
  have hEmpty : emptySection? (before ++ .header line :: between) = some header :=
    emptySection?_of_split hParse hBetween
  cases hRest : after.dropWhile fun role => !role.isEntry with
  | nil =>
    rw [hRest, List.append_nil] at hAfter
    rw [← hAfter, ← h] at hEmpty
    cases hOpen : unfinished? roles with
    | some statement => exact absurd (.unterminated hOpen) (hEnd _)
    | none => exact absurd (.emptyAtEnd hOpen hEmpty) (hEnd _)
  | cons role rest =>
    rw [hRest] at hAfter
    have hEntry : role.isEntry = true := by
      have hHead := List.head?_dropWhile_not (fun role => !LineRole.isEntry role) after
      simpa [hRest] using hHead
    have hSplit : roles = (before ++ .header line :: between) ++ role :: rest := by
      rw [h, hAfter, List.append_assoc]
      rfl
    cases role with
    | row =>
      refine ⟨between, rest, hAfter, fun other hMem => ?_⟩
      cases hBetween _ hMem
    | header other => exact absurd (.empty hEmpty) (hClean hSplit _)
    | unreadable _ | skipped | statement _ _ => cases hEntry

/-- A file is readable and grammatical if and only if nothing is noticed in it. -/
theorem grammatical_iff : Readable (roles lines) ∧ Grammatical (roles lines) ↔
    Clean (roles lines) ∧ ∀ e, ¬Violation (roles lines) none e := by
  refine ⟨fun ⟨hReadable, h⟩ => ⟨h.clean hReadable, h.end⟩, fun ⟨hClean, hEnd⟩ => ⟨?_, ?_⟩⟩
  · intro fault hMem
    obtain ⟨before, after, hSplit⟩ := List.append_of_mem hMem
    exact hClean hSplit _ (.unreadable fault)
  · exact {
      completed := fun _ _ _ _ hSplit => completed_of_clean hClean hEnd hSplit
      headers := fun line hMem => headers_of_clean hClean hMem
      inside := fun before after hSplit => Classical.byContradiction fun hNone =>
        hClean hSplit _ (.outside (not_exists.mp hNone))
      filled := fun _ _ _ hSplit => filled_of_clean hClean hEnd hSplit }

theorem mem_rolesFrom {before : List LineRole} {fault : IoFault} :
    .unreadable fault ∈ rolesFrom before lines ↔
      .unreadable fault ∈ before ∨ .error fault ∈ lines := by
  induction lines generalizing before with
  | nil => simp [rolesFrom]
  | cons line rest ih =>
    have hRole : .unreadable fault = roleAfter before line ↔ .error fault = line := by
      cases line with
      | error other => simp [roleAfter]
      | ok text =>
        simp only [roleAfter]
        split
        · simp
        · split <;> simp
    rw [rolesFrom, ih, List.mem_append, List.mem_singleton, hRole, List.mem_cons, or_assoc]

theorem readable_iff : Readable (roles lines) ↔ ∀ fault, .error fault ∉ lines := by
  simp [Readable, roles, mem_rolesFrom]

end Grammar

end ValidityTables.UpdateFile
