import ValidityTables.Proofs.Numerals
import ValidityTables.Proofs.StatementReader
import ValidityTables.Proofs.Words

/-! # The values that a statement inserts

A reader of value lists that knows string literals: a comma divides values only outside of one, and
a quote inside of one is doubled. It reads back what the insertion of a validity row was made from,
as long as no date has a quote in it.
-/

namespace ValidityTables

open Text

inductive SqlValue
  | number (n : Int)
  | text (cs : List Char)
  deriving DecidableEq, Repr

namespace SqlValue

/-- Cuts at the commas outside of literals. Two quotes in a row leave a literal and enter it
again. -/
def cut (inside : Bool) : List Char → List (List Char)
  | [] => [[]]
  | c :: rest =>
    if c = ',' ∧ inside = false then [] :: cut false rest
    else (cut (inside != (c == '\'')) rest).modifyHead (c :: ·)

/-- The content of a literal after its opening quote, if the literal ends where the text does. -/
def literal? : List Char → Option (List Char)
  | [] => none
  | c :: rest =>
    if c = '\'' then
      match rest with
      | [] => some []
      | next :: more => if next = '\'' then (literal? more).map ('\'' :: ·) else none
    else (literal? rest).map (c :: ·)

def read? (piece : List Char) : Option SqlValue :=
  match trim piece with
  | '\'' :: rest => (literal? rest).map .text
  | cs =>
    match readInt 127 cs with
    | .ok n => some (.number n)
    | .error _ => none

def readList? (list : List Char) : Option (List SqlValue) := (cut false list).mapM read?

/-- The table and the values of a statement that inserts one row. -/
def readInsert? (sql : String) : Option (String × List SqlValue) := do
  let (table, rest) := readTable (← Header.dropMarker? "INSERT INTO ".toList sql.toList)
  let rest ← Header.dropMarker? " VALUES (".toList rest
  let list ← Header.dropMarker? [';', ')'] rest.reverse
  return (table, ← readList? list.reverse)

/-- The contents of the string literals among values. -/
def texts (values : List SqlValue) : List (List Char) :=
  values.filterMap fun
    | .text cs => some cs
    | .number _ => none

section Cut

/-- A text that no comma divides and after which no literal is open. -/
def IsPiece (cs : List Char) : Prop :=
  ∀ rest, cut false (cs ++ rest) = (cut false rest).modifyHead (cs ++ ·)

theorem cut_plain {cs : List Char} (h : ∀ c ∈ cs, c ≠ ',' ∧ c ≠ '\'') : IsPiece cs := by
  intro rest
  induction cs with
  | nil =>
    rw [List.nil_append]
    cases cut false rest <;> rfl
  | cons c cs ih =>
    obtain ⟨hComma, hQuote⟩ := h c List.mem_cons_self
    have hOutside : (false != (c == '\'')) = false := by simpa using hQuote
    rw [List.cons_append, cut, if_neg (fun hBoth => hComma hBoth.1), hOutside,
      ih fun other hMem => h other (List.mem_cons_of_mem _ hMem)]
    cases cut false rest <;> rfl

theorem cut_inside {cs : List Char} (h : '\'' ∉ cs) (rest : List Char) :
    cut true (cs ++ '\'' :: rest) = (cut false rest).modifyHead (cs ++ '\'' :: ·) := by
  induction cs with
  | nil => simp [cut]
  | cons c cs ih =>
    rw [List.mem_cons, not_or] at h
    have hInside : (true != (c == '\'')) = true := by simpa using Ne.symm h.1
    rw [List.cons_append, cut, if_neg (by simp), hInside, ih h.2]
    cases cut false rest <;> rfl

theorem cut_quoted {cs : List Char} (h : '\'' ∉ cs) : IsPiece ('\'' :: (cs ++ ['\''])) := by
  intro rest
  rw [List.cons_append, List.append_assoc, List.cons_append, List.nil_append, cut,
    if_neg (by decide), show (false != ('\'' == '\'')) = true by decide, cut_inside h]
  cases cut false rest <;> simp

theorem cut_intercalate {first : List Char} {rest : List (List Char)}
    (h : ∀ piece ∈ first :: rest, IsPiece piece) :
    cut false ([',', ' '].intercalate (first :: rest)) = first :: rest.map (' ' :: ·) := by
  induction rest generalizing first with
  | nil =>
    have hOnly := h first List.mem_cons_self []
    rw [List.append_nil] at hOnly
    simp [hOnly, cut]
  | cons next rest ih =>
    have hRest := ih fun piece hMem => h piece (List.mem_cons_of_mem _ hMem)
    have hBlank (cs : List Char) : cut false (' ' :: cs) = (cut false cs).modifyHead (' ' :: ·) :=
      rfl
    rw [List.intercalate_cons_cons, List.append_assoc, h first List.mem_cons_self,
      List.cons_append, cut, if_pos ⟨rfl, rfl⟩, List.cons_append, List.nil_append, hBlank, hRest]
    simp

end Cut

section Spelling

/-- A text is a way to write a value, with any blanks in front of it. -/
structure Spells (cs : List Char) (value : SqlValue) : Prop where
  piece : IsPiece cs
  read : ∀ gap, AllBlank gap → read? (gap ++ cs) = some value

theorem spells_integer {cs : List Char} {i : Int} (h : IsInteger cs i) (hLow : -2 ^ 127 ≤ i)
    (hHigh : i < 2 ^ 127) : Spells cs (.number i) := by
  refine ⟨cut_plain fun c hMem => (h.plain_chars c hMem).1, fun gap hGap => ?_⟩
  have hTrim : trim (gap ++ cs) = cs := by
    rw [trim, trimStart_append hGap]
    exact h.trim_eq
  have hRead := readInt_eq_ok.mpr ⟨h, hLow, hHigh⟩
  rw [read?, hTrim]
  split
  · exact absurd rfl (h.plain_chars '\'' List.mem_cons_self).1.2
  · rw [hRead]

theorem literal?_cons {c : Char} (h : c ≠ '\'') (rest : List Char) :
    literal? (c :: rest) = (literal? rest).map (c :: ·) := by
  cases rest <;> simp [literal?, h]

theorem literal?_closed {cs : List Char} (h : '\'' ∉ cs) : literal? (cs ++ ['\'']) = some cs := by
  induction cs with
  | nil => rfl
  | cons c cs ih =>
    rw [List.mem_cons, not_or] at h
    rw [List.cons_append, literal?_cons (Ne.symm h.1), ih h.2]
    rfl

theorem spells_quoted {cs : List Char} (h : '\'' ∉ cs) :
    Spells ('\'' :: (cs ++ ['\''])) (.text cs) := by
  refine ⟨cut_quoted h, fun gap hGap => ?_⟩
  have hTrim : trim (gap ++ '\'' :: (cs ++ ['\''])) = '\'' :: (cs ++ ['\'']) := by
    rw [trim, trimStart_append hGap, trimStart_of_head, trimEnd_of_last]
    · intro c hLast
      rw [← List.cons_append, List.getLast?_concat] at hLast
      cases hLast
      decide
    · intro c hHead
      cases hHead
      decide
  simp only [read?, hTrim, literal?_closed h, Option.map_some]

theorem mapM_read? {pieces : List (List Char)} {values : List SqlValue}
    (h : List.Forall₂ Spells pieces values) :
    (pieces.map (' ' :: ·)).mapM read? = some values := by
  have hGap : AllBlank [' '] := by decide
  induction h with
  | nil => rfl
  | @cons piece value _ _ hFirst _ ih =>
    have hRead : read? (' ' :: piece) = some value := hFirst.read [' '] hGap
    rw [List.map_cons, List.mapM_cons, hRead, ih]
    rfl

theorem isPiece_of_spells {pieces : List (List Char)} {values : List SqlValue}
    (h : List.Forall₂ Spells pieces values) : ∀ piece ∈ pieces, IsPiece piece := by
  induction h with
  | nil => simp
  | cons hFirst _ ih => exact List.forall_mem_cons.mpr ⟨hFirst.piece, ih⟩

theorem readList?_spelled {pieces : List (List Char)} {values : List SqlValue}
    (h : List.Forall₂ Spells pieces values) (hSome : pieces ≠ []) :
    readList? ([',', ' '].intercalate pieces) = some values := by
  have hPieces := isPiece_of_spells h
  cases h with
  | nil => exact absurd rfl hSome
  | @cons first value rest others hFirst hRest =>
    have hRead : read? first = some value := hFirst.read [] allBlank_nil
    rw [readList?, cut_intercalate hPieces, List.mapM_cons, hRead, mapM_read? hRest]
    rfl

end Spelling

end SqlValue

namespace Header

def epochValues : Option UInt8 → List SqlValue
  | some epoch => [.number epoch.toNat, .number 0]
  | none => []

/-- What the validity row of a header holds. -/
def validityRow (header : Header) (seqno : UInt32) (inserted : String) : List SqlValue :=
  [.number seqno.toNat, .text header.validFrom.toList, .text header.validTo.toList] ++
    epochValues header.epoch ++
    [.text ['1'], .text (toString header.simMask.value).toList, .number header.task.toInt,
      .number header.aggregate.toNat, .text header.created.toList, .text inserted.toList]

end Header

namespace SqlValue

theorem spells_text {text : String} (h : '\'' ∉ text.toList) :
    Spells (Statement.quoted text).toList (.text text.toList) := by
  rw [Statement.quoted, String.toList_append, String.toList_append]
  exact spells_quoted h

theorem spells_validityValues {header : Header} (seqno : UInt32) {inserted : String}
    (hFrom : '\'' ∉ header.validFrom.toList) (hTo : '\'' ∉ header.validTo.toList)
    (hCreated : '\'' ∉ header.created.toList) (hInserted : '\'' ∉ inserted.toList) :
    List.Forall₂ Spells ((Statement.validityValues header seqno inserted).map String.toList)
      (header.validityRow seqno inserted) := by
  have hNumber (n : Nat) (hMax : n < 2 ^ 64) : Spells n.repr.toList (.number n) :=
    spells_integer (.plain (isNumeral_repr n)) (by omega) (by omega)
  have hSeqno := hNumber seqno.toNat (by have h := seqno.toNat_lt; omega)
  have hAggregate := hNumber header.aggregate.toNat header.aggregate.toNat_lt
  have hTask : Spells (toString header.task).toList (.number header.task.toInt) :=
    spells_integer (isInteger_toString header.task.toInt)
      (by have h := header.task.le_toInt; omega) (by have h := header.task.toInt_lt; omega)
  have hMask : '\'' ∉ (toString header.simMask.value).toList := by
    cases header.simMask <;> decide
  rw [Statement.validityValues, Header.validityRow, List.map_append, List.map_append]
  refine List.rel_append (List.rel_append ?_ ?_) ?_
  · exact .cons hSeqno (.cons (spells_text hFrom) (.cons (spells_text hTo) .nil))
  · cases header.epoch with
    | none => exact .nil
    | some epoch =>
      have hEpoch := hNumber epoch.toNat (by have h := epoch.toNat_lt; omega)
      exact .cons hEpoch (.cons (hNumber 0 (by omega)) .nil)
  · exact .cons (spells_text (by decide)) (.cons (spells_text hMask) (.cons hTask
      (.cons hAggregate (.cons (spells_text hCreated) (.cons (spells_text hInserted) .nil)))))

/-- The insertion of a validity row is read back. -/
theorem readInsert?_insertValidityRow {header : Header} (hName : IsName header.table)
    {seqno : UInt32} {inserted : String} (hFrom : '\'' ∉ header.validFrom.toList)
    (hTo : '\'' ∉ header.validTo.toList) (hCreated : '\'' ∉ header.created.toList)
    (hInserted : '\'' ∉ inserted.toList) :
    readInsert? (Statement.insertValidityRow header seqno inserted) =
      some (header.validityTable, header.validityRow seqno inserted) := by
  have hSpelled := spells_validityValues seqno hFrom hTo hCreated hInserted
  let list := (", ".intercalate (Statement.validityValues header seqno inserted)).toList
  have hList : readList? list = some (header.validityRow seqno inserted) := by
    simp only [list, String.toList_intercalate]
    exact readList?_spelled hSpelled (by simp [Statement.validityValues])
  have hText : (Statement.insertValidityRow header seqno inserted).toList = "INSERT INTO ".toList ++
      (header.validityTable.toList ++ (" VALUES (".toList ++ (list ++ [')', ';']))) := by
    simp [Statement.insertValidityRow, Statement.insertValues, list]
  have hBlank : (" VALUES (".toList ++ (list ++ [')', ';'])).head? = some ' ' := rfl
  have hTable := readTable_name (isName_validityTable hName) hBlank
  have hEnd : (list ++ [')', ';']).reverse = [';', ')'] ++ list.reverse := by simp
  simp only [readInsert?, hText, dropMarker?_append, Option.bind_eq_bind, Option.bind_some,
    Header.validityTable, hTable, hEnd, List.reverse_reverse, hList, Option.pure_def]

end SqlValue

end ValidityTables
