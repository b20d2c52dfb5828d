import ValidityTables.Proofs.FileGrammar
import ValidityTables.Proofs.FileSteps
import ValidityTables.Proofs.Words

/-! # The lines of a file and what they amount to

Outside of a raw statement a line is known by how it begins after blanks: a comment by its number
sign, a raw statement and a header by their words. A raw statement takes the lines from the one that
begins it up to the first after which its text ends with a semicolon, whatever they look like. So
`Amounts` says on the texts of the lines what a file that is read to its end holds.
-/

namespace ValidityTables.UpdateFile

open Text

/-- A line that is blank or a comment. -/
def IsSkipped (line : String) : Prop :=
  AllBlank line.toList ∨ ∃ gap comment, AllBlank gap ∧ line.toList = gap ++ '#' :: comment

def StartsStatement (line text : String) : Prop :=
  ∃ after, trim line.toList = "SQL".toList ++ after ∧
    (∀ c, after.head? = some c → isBlank c = true) ∧ text.toList = trim after

def IsHeaderLine (line : String) : Prop :=
  ∃ gap rest, AllBlank gap ∧ line.toList = gap ++ "BEGIN_TABLE".toList ++ rest

def IsRowLine (line : String) : Prop :=
  ¬IsSkipped line ∧ (∀ text, ¬StartsStatement line text) ∧ ¬IsHeaderLine line

/-- The texts of continuation lines, without anything between them. -/
def joined (lines : List String) : String := String.join (lines.map (edit trim))

/-- The lines end a raw statement that has begun with this text, and only the last of them does. -/
structure Completes (text : String) (lines : List String) : Prop where
  last : terminated (text ++ joined lines) = true
  first : ∀ front later, lines = front ++ later → later ≠ [] →
    terminated (text ++ joined front) = false

/-- What the lines after line `n` amount to. -/
inductive Amounts : Nat → List String → List Item → Prop
  | done {n : Nat} : Amounts n [] []
  | skipped {n : Nat} {line : String} {rest : List String} {items : List Item} :
      IsSkipped line → Amounts (n + 1) rest items →
      Amounts n (line :: rest) items
  | header {n : Nat} {line : String} {rest : List String} {items : List Item} :
      IsHeaderLine line → Amounts (n + 1) rest items →
      Amounts n (line :: rest) (.header line :: items)
  | row {n : Nat} {line : String} {rest : List String} {items : List Item} :
      IsRowLine line → Amounts (n + 1) rest items →
      Amounts n (line :: rest) (.row (n + 1) line :: items)
  | statement {n : Nat} {line text : String} {more rest : List String} {items : List Item} :
      StartsStatement line text → Completes text more →
      Amounts (n + 1 + more.length) rest items →
      Amounts n (line :: (more ++ rest)) (.statement (text ++ joined more) :: items)

section Kinds

theorem trim_comment {gap comment : List Char} (hGap : AllBlank gap) :
    trim (gap ++ '#' :: comment) = '#' :: trimEnd comment :=
  @trim_gap_append gap [] '#' hGap (by decide) (by decide) comment

theorem ofLine_skipped_iff {line : String} : LineKind.ofLine line = .skipped ↔ IsSkipped line := by
  constructor
  · intro h
    obtain ⟨before, after, hBefore, hAfter, hLine⟩ := exists_trim line.toList
    unfold LineKind.ofLine at h
    simp only at h
    split at h
    · rename_i hTrim
      rw [hTrim, List.append_nil] at hLine
      refine .inl fun c hMem => ?_
      rw [hLine, List.mem_append] at hMem
      exact hMem.elim (hBefore c) (hAfter c)
    · rename_i rest hTrim
      rw [hTrim, List.append_assoc] at hLine
      exact .inr ⟨before, rest ++ after, hBefore, hLine⟩
    · split at h
      · cases h
      · split at h <;> cases h
  · rintro (hBlank | ⟨gap, comment, hGap, hLine⟩)
    · have hTrim : trim line.toList = [] := trim_append hBlank []
      rw [LineKind.ofLine, hTrim]
    · rw [LineKind.ofLine, hLine, trim_comment hGap]
      rfl

theorem append_of_dropMarker? {marker cs rest : List Char}
    (h : Header.dropMarker? marker cs = some rest) : cs = marker ++ rest := by
  induction marker generalizing cs with
  | nil => exact Option.some.inj h
  | cons m marker ih =>
    cases cs with
    | nil => cases h
    | cons c cs =>
      rw [Header.dropMarker?] at h
      split at h
      · rename_i hSame
        rw [ih h, hSame, List.cons_append]
      · cases h

theorem startsStatement_of_statement? {line : String} {text : List Char}
    (h : LineKind.statement? (trim line.toList) = some text) :
    StartsStatement line (String.ofList text) := by
  unfold LineKind.statement? at h
  split at h
  · cases h
  · rename_i hMarker
    cases h
    exact ⟨[], append_of_dropMarker? hMarker, by simp, by simp [trim, trimStart, trimEnd]⟩
  · rename_i c rest hMarker
    split at h
    · rename_i hBlank
      cases h
      refine ⟨c :: rest, append_of_dropMarker? hMarker, by simpa using hBlank, ?_⟩
      rw [String.toList_ofList, trim_cons_of_isBlank hBlank]
    · cases h

theorem statement?_of_blank {after : List Char}
    (h : ∀ c, after.head? = some c → isBlank c = true) :
    LineKind.statement? ('S' :: 'Q' :: 'L' :: after) = some (trim after) := by
  have hMarker : Header.dropMarker? LineKind.statementMarker ('S' :: 'Q' :: 'L' :: after) =
      some after := rfl
  rw [LineKind.statement?, hMarker]
  cases after with
  | nil => rfl
  | cons c rest =>
    have hBlank : isBlank c = true := h c rfl
    simp only [hBlank, if_true, trim_cons_of_isBlank]

theorem ofLine_statement_iff {line text : String} :
    LineKind.ofLine line = .statement text ↔ StartsStatement line text := by
  constructor
  · intro h
    unfold LineKind.ofLine at h
    simp only at h
    split at h
    · cases h
    · cases h
    · split at h
      · rename_i hText
        cases h
        exact startsStatement_of_statement? hText
      · split at h <;> cases h
  · rintro ⟨after, hLine, hBlank, hText⟩
    have hStatement := statement?_of_blank hBlank
    have hMarker : "SQL".toList ++ after = 'S' :: 'Q' :: 'L' :: after := rfl
    rw [hMarker] at hLine
    rw [LineKind.ofLine, hLine]
    simp [hStatement, ← hText]

theorem ofLine_header_iff {line : String} :
    LineKind.ofLine line = .header ↔ IsHeaderLine line := by
  constructor
  · intro h
    obtain ⟨before, after, hBefore, -, hLine⟩ := exists_trim line.toList
    unfold LineKind.ofLine at h
    simp only at h
    split at h
    · cases h
    · cases h
    · split at h
      · cases h
      · split at h
        · rename_i hMarker
          obtain ⟨rest, hTrim⟩ := List.isPrefixOf_iff_prefix.mp hMarker
          rw [← hTrim, List.append_assoc, List.append_assoc, ← List.append_assoc] at hLine
          exact ⟨before, rest ++ after, hBefore, hLine⟩
        · cases h
  · rintro ⟨gap, rest, hGap, hLine⟩
    have hTrim : trim line.toList = "BEGIN_TABL".toList ++ 'E' :: trimEnd rest := by
      rw [hLine, List.append_assoc]
      exact @trim_gap_append gap "BEGIN_TABL".toList 'E' hGap (by decide) (by decide) rest
    rw [LineKind.ofLine, hTrim]
    rfl

theorem ofLine_row_iff {line : String} : LineKind.ofLine line = .row ↔ IsRowLine line := by
  rw [IsRowLine, ← ofLine_skipped_iff, ← ofLine_header_iff]
  simp only [← ofLine_statement_iff]
  cases LineKind.ofLine line <;> simp

end Kinds

section Lines

@[simp] theorem joined_nil : joined [] = "" := rfl

theorem joined_cons (line : String) (rest : List String) :
    joined (line :: rest) = edit trim line ++ joined rest := by
  simp [joined, String.join_cons]

theorem Completes.cons {text line : String} {more : List String} (hOpen : terminated text = false)
    (h : Completes (text ++ edit trim line) more) : Completes text (line :: more) where
  last := by
    rw [joined_cons, ← String.append_assoc]
    exact h.last
  first front later hSplit hLater := by
    cases front with
    | nil => simpa using hOpen
    | cons first front =>
      obtain ⟨rfl, rfl⟩ := List.cons_eq_cons.mp hSplit
      rw [joined_cons, ← String.append_assoc]
      exact h.first front later rfl hLater

theorem Completes.nil {text : String} (h : terminated text = true) : Completes text [] where
  last := by simpa using h
  first front later hSplit hLater := by
    obtain ⟨rfl, rfl⟩ := List.append_eq_nil_iff.mp hSplit.symm
    exact absurd rfl hLater

theorem itemsFrom_completes {lines : List String} {n : Nat} {statement : OpenStatement}
    (hComplete : statement.isComplete = terminated statement.text)
    (hStop : ∀ e, .stop e ∉
      statement.settle.1.toList ++ itemsFrom n statement.settle.2 (lines.map .ok)) :
    ∃ more rest, lines = more ++ rest ∧ Completes statement.text more ∧
      statement.settle.1.toList ++ itemsFrom n statement.settle.2 (lines.map .ok) =
        .statement (statement.text ++ joined more) ::
          itemsFrom (n + more.length) none (rest.map .ok) := by
  induction lines generalizing n statement with
  | nil =>
    cases hEnds : terminated statement.text with
    | true => exact ⟨[], [], rfl, .nil hEnds, by simp [OpenStatement.settle, hComplete, hEnds]⟩
    | false =>
      have hOpen := hStop (.unterminatedSql statement.lineNumber statement.text)
      simp [OpenStatement.settle, hComplete, hEnds, itemsFrom] at hOpen
  | cons line lines ih =>
    cases hEnds : terminated statement.text with
    | true => exact ⟨[], _, rfl, .nil hEnds, by simp [OpenStatement.settle, hComplete, hEnds]⟩
    | false =>
      let next : OpenStatement := { statement with pieces := edit trim line :: statement.pieces }
      have hText : next.text = statement.text ++ edit trim line := statement.text_push _
      have hNext : next.isComplete = terminated next.text := by
        rw [hText]
        exact statement.isComplete_push _ hEnds
      have hSettle : statement.settle = (none, some statement) := by
        simp [OpenStatement.settle, hComplete, hEnds]
      have hItems : itemsFrom n (some statement) ((line :: lines).map .ok) =
          next.settle.1.toList ++ itemsFrom (n + 1) next.settle.2 (lines.map .ok) :=
        itemsFrom_cons n (some statement) line (lines.map .ok)
      rw [hSettle, Option.toList_none, List.nil_append, hItems] at hStop ⊢
      obtain ⟨more, rest, rfl, hMore, hRest⟩ := ih hNext hStop
      rw [hText] at hMore hRest
      refine ⟨line :: more, rest, rfl, hMore.cons hEnds, ?_⟩
      rw [hRest, joined_cons, String.append_assoc, List.length_cons, Nat.add_assoc,
        Nat.add_comm 1]

theorem amounts_itemsFrom (size : Nat) {lines : List String} (hSize : lines.length ≤ size) {n : Nat}
    (hStop : ∀ e, .stop e ∉ itemsFrom n none (lines.map .ok)) :
    Amounts n lines (itemsFrom n none (lines.map .ok)) := by
  -- A raw statement takes several lines at once, so the induction is on a bound of their number.
  induction size generalizing lines n with
  | zero =>
    obtain rfl := List.eq_nil_of_length_eq_zero (Nat.le_zero.mp hSize)
    exact .done
  | succ size ih =>
    cases lines with
    | nil => exact .done
    | cons line rest =>
      have hRest : rest.length ≤ size := Nat.le_of_succ_le_succ hSize
      rw [List.map_cons, itemsFrom_cons, scan] at hStop ⊢
      cases hKind : LineKind.ofLine line with
      | skipped =>
        rw [hKind] at hStop
        exact .skipped (ofLine_skipped_iff.mp hKind) (ih hRest hStop)
      | header =>
        rw [hKind] at hStop
        exact .header (ofLine_header_iff.mp hKind)
          (ih hRest fun e hMem => hStop e (List.mem_cons_of_mem _ hMem))
      | row =>
        rw [hKind] at hStop
        exact .row (ofLine_row_iff.mp hKind)
          (ih hRest fun e hMem => hStop e (List.mem_cons_of_mem _ hMem))
      | statement text =>
        let opened : OpenStatement := { lineNumber := n + 1, pieces := [text] }
        have hText : opened.text = text := by simp [opened, OpenStatement.text, String.join]
        rw [hKind] at hStop
        have hComplete : opened.isComplete = terminated opened.text := hText ▸ rfl
        obtain ⟨more, later, rfl, hCompletes, hItems⟩ := itemsFrom_completes hComplete hStop
        rw [hText] at hCompletes hItems
        change ∀ e, .stop e ∉ opened.settle.1.toList ++ _ at hStop
        rw [hItems] at hStop
        have hLater : later.length ≤ size := by
          rw [List.length_append] at hRest
          omega
        change Amounts n (line :: (more ++ later)) (opened.settle.1.toList ++ _)
        rw [hItems]
        exact .statement (ofLine_statement_iff.mp hKind) hCompletes
          (ih hLater fun e hMem => hStop e (List.mem_cons_of_mem _ hMem))

end Lines

end ValidityTables.UpdateFile
