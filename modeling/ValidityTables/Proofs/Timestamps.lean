import ValidityTables.Proofs.Correspondence
import ValidityTables.Proofs.SqlValues
import ValidityTables.Proofs.StoredRows
import Mathlib.Data.List.Forall2

/-! # The dates of an accepted block

A block is begun if a timestamp occurs in each of its dates. That makes a date a timestamp only if
it has as many characters and is plain ASCII: text around the timestamp rides along, and a quote in
it ends up inside of the statement that stores the validity row.
-/

namespace ValidityTables

open Text

/-- Zeros stand for digits, anything else for itself. -/
def timestampTemplate : List Char := "0000-00-00 00:00:00".toList

def FitsSlot (digit : Char → Bool) (slot c : Char) : Prop :=
  if slot = '0' then digit c = true else c = slot

instance (digit : Char → Bool) (slot c : Char) : Decidable (FitsSlot digit slot c) :=
  inferInstanceAs (Decidable (if slot = '0' then digit c = true else c = slot))

/-- A text is a timestamp, with the given digits and nothing before or after it. -/
def IsDateTime (digit : Char → Bool) (cs : List Char) : Prop :=
  List.Forall₂ (FitsSlot digit) timestampTemplate cs

instance (digit : Char → Bool) (cs : List Char) : Decidable (IsDateTime digit cs) :=
  inferInstanceAs (Decidable (List.Forall₂ (FitsSlot digit) timestampTemplate cs))

theorem IsDateTime.length {digit : Char → Bool} {cs : List Char} (h : IsDateTime digit cs) :
    cs.length = 19 := h.length_eq.symm

theorem exists_slot {digit : Char → Bool} {slots cs : List Char}
    (h : List.Forall₂ (FitsSlot digit) slots cs) :
    ∀ c ∈ cs, ∃ slot ∈ slots, FitsSlot digit slot c := by
  induction h with
  | nil => simp
  | @cons slot c slots cs hFirst _ ih =>
    refine List.forall_mem_cons.mpr ⟨⟨slot, List.mem_cons_self, hFirst⟩, fun other hMem => ?_⟩
    obtain ⟨place, hPlace, hFits⟩ := ih other hMem
    exact ⟨place, List.mem_cons_of_mem _ hPlace, hFits⟩

theorem IsDateTime.unquoted {cs : List Char} (h : IsDateTime isAsciiDigit cs) : '\'' ∉ cs := by
  intro hMem
  have hTemplate : '\'' ∉ timestampTemplate := by decide
  obtain ⟨slot, hSlot, hFits⟩ := exists_slot h _ hMem
  unfold FitsSlot at hFits
  split at hFits
  · cases hFits
  · exact hTemplate (hFits ▸ hSlot)

/-- In plain ASCII the digits of all scripts are those of one. -/
theorem IsDateTime.ascii {cs : List Char} (h : IsDateTime isDigit cs) (hAscii : IsAscii cs) :
    IsDateTime isAsciiDigit cs := by
  unfold IsDateTime at h ⊢
  generalize timestampTemplate = slots at h ⊢
  induction h with
  | nil => exact .nil
  | @cons slot c slots cs hFirst _ ih =>
    obtain ⟨hSmall, hRest⟩ := List.forall_mem_cons.mp hAscii
    refine .cons ?_ (ih hRest)
    unfold FitsSlot at hFirst ⊢
    rwa [isDigit, if_pos hSmall] at hFirst

section Occurrence

theorem startsWithClasses_iff {classes : List (Char → Bool)} {cs : List Char} :
    startsWithClasses classes cs = true ↔ ∃ stamp after, cs = stamp ++ after ∧
      List.Forall₂ (fun (p : Char → Bool) c => p c = true) classes stamp := by
  induction classes generalizing cs with
  | nil => exact ⟨fun _ => ⟨[], cs, rfl, .nil⟩, fun _ => rfl⟩
  | cons p rest ih =>
    cases cs with
    | nil =>
      simp only [startsWithClasses, Bool.false_eq_true, false_iff]
      rintro ⟨stamp, after, hSplit, hAll⟩
      cases hAll
      simp at hSplit
    | cons c cs =>
      rw [startsWithClasses, Bool.and_eq_true, ih]
      constructor
      · rintro ⟨hFirst, stamp, after, rfl, hAll⟩
        exact ⟨c :: stamp, after, rfl, .cons hFirst hAll⟩
      · rintro ⟨stamp, after, hSplit, hAll⟩
        cases hAll with
        | cons hFirst hAll =>
          cases hSplit
          exact ⟨hFirst, _, after, rfl, hAll⟩

theorem timestampPattern_eq : timestampPattern =
    timestampTemplate.map fun slot c => if slot = '0' then isDigit c else c == slot := rfl

theorem isDateTime_iff {cs : List Char} : IsDateTime isDigit cs ↔
    List.Forall₂ (fun (p : Char → Bool) c => p c = true) timestampPattern cs := by
  have hSlot (slot c : Char) : FitsSlot isDigit slot c ↔
      (if slot = '0' then isDigit c else c == slot) = true := by
    unfold FitsSlot
    split <;> simp
  rw [timestampPattern_eq, List.forall₂_map_left_iff]
  exact ⟨List.Forall₂.imp fun slot c => (hSlot slot c).mp,
    List.Forall₂.imp fun slot c => (hSlot slot c).mpr⟩

theorem hasTimestamp_iff {cs : List Char} : hasTimestamp cs = true ↔
    ∃ before stamp after, cs = before ++ stamp ++ after ∧ IsDateTime isDigit stamp := by
  induction cs with
  | nil =>
    simp only [hasTimestamp, Bool.false_eq_true, false_iff]
    rintro ⟨before, stamp, after, hSplit, hStamp⟩
    have hLength := congrArg List.length hSplit
    simp only [List.length_nil, List.length_append, hStamp.length] at hLength
    omega
  | cons c cs ih =>
    rw [hasTimestamp, Bool.or_eq_true, startsWithClasses_iff, ih]
    constructor
    · rintro (⟨stamp, after, hSplit, hStamp⟩ | ⟨before, stamp, after, rfl, hStamp⟩)
      · exact ⟨[], stamp, after, hSplit, isDateTime_iff.mpr hStamp⟩
      · exact ⟨c :: before, stamp, after, rfl, hStamp⟩
    · rintro ⟨before, stamp, after, hSplit, hStamp⟩
      cases before with
      | nil => exact .inl ⟨stamp, after, hSplit, isDateTime_iff.mp hStamp⟩
      | cons first before =>
        cases hSplit
        exact .inr ⟨before, stamp, after, rfl, hStamp⟩

/-- A date in which a timestamp occurs has no room for more in nineteen characters. -/
theorem isDateTime_of_hasTimestamp {cs : List Char} (h : hasTimestamp cs = true)
    (hLength : cs.length = 19) (hAscii : IsAscii cs) : IsDateTime isAsciiDigit cs := by
  obtain ⟨before, stamp, after, rfl, hStamp⟩ := hasTimestamp_iff.mp h
  rw [List.length_append, List.length_append, hStamp.length] at hLength
  obtain rfl := List.eq_nil_of_length_eq_zero (show before.length = 0 by omega)
  obtain rfl := List.eq_nil_of_length_eq_zero (show after.length = 0 by omega)
  rw [List.nil_append, List.append_nil] at hAscii ⊢
  exact hStamp.ascii hAscii

end Occurrence

def Header.dates (header : Header) : List String :=
  [header.validFrom, header.validTo, header.created]

theorem Header.checkDates_eq_ok {header : Header} {line : String} :
    header.checkDates line = .ok () ↔ ∀ date ∈ header.dates, hasTimestamp date.toList = true := by
  unfold Header.checkDates
  split
  · rename_i hNone
    have hAll := List.find?_eq_none.mp hNone
    simpa [Header.dates] using hAll
  · rename_i date hFound
    have hMissing := List.find?_some hFound
    have hMem : date ∈ header.dates := List.mem_of_find?_eq_some hFound
    simp only [reduceCtorEq, false_iff]
    intro hAll
    rw [hAll date hMem] at hMissing
    cases hMissing

namespace Block

variable {σ : Type} {backend : Backend σ} {settings : BlockSettings} {line : String}
  {session after : Session σ} {block : Block} {header : Header} {rows : Rows}

/-- A timestamp occurs in each date of an accepted block, so a date of nineteen ASCII characters is
one. If no date has a quote in it, the insertion of the validity row lists nine values, or eleven
with an epoch, and its string literals hold the dates and the masks. -/
theorem begin_dates (hBegin : begin backend settings line session = (.ok block, after))
    (hReady : block.stage = .ready header rows) :
    (∀ date ∈ header.dates,
      (∃ before stamp behind, date.toList = before ++ stamp ++ behind ∧ IsDateTime isDigit stamp) ∧
      (date.toList.length = 19 → IsAscii date.toList → IsDateTime isAsciiDigit date.toList)) ∧
    ((∀ date ∈ header.dates, '\'' ∉ date.toList) → ∀ (seqno : UInt32) (inserted : String),
      IsDateTime isAsciiDigit inserted.toList →
      ∃ values, SqlValue.readInsert? (Statement.insertValidityRow header seqno inserted) =
          some (header.validityTable, values) ∧
        values.length = (if header.epoch.isSome then 11 else 9) ∧
        SqlValue.texts values = [header.validFrom.toList, header.validTo.toList, ['1'],
          (toString header.simMask.value).toList, header.created.toList, inserted.toList]) := by
  obtain ⟨reason, hStage⟩ | ⟨header, hParse, hDates, hStage⟩ := begin_stage hBegin
  · rw [hStage] at hReady
    cases hReady
  rw [hStage] at hReady
  cases hReady
  have hHolds := Header.checkDates_eq_ok.mp hDates
  refine ⟨fun date hMem => ⟨hasTimestamp_iff.mp (hHolds date hMem), fun hLength hAscii =>
    isDateTime_of_hasTimestamp (hHolds date hMem) hLength hAscii⟩, ?_⟩
  intro hUnquoted seqno inserted hInserted
  simp only [Header.dates, List.forall_mem_cons, List.not_mem_nil, false_implies, implies_true,
    and_true] at hUnquoted
  obtain ⟨hFrom, hTo, hCreated⟩ := hUnquoted
  refine ⟨_, SqlValue.readInsert?_insertValidityRow (Header.parse_isName hParse) hFrom hTo hCreated
    hInserted.unquoted, ?_, ?_⟩
  · cases hEpoch : header.epoch <;> simp [Header.validityRow, Header.epochValues, hEpoch]
  · cases hEpoch : header.epoch <;>
      simp [Header.validityRow, Header.epochValues, SqlValue.texts, hEpoch]

theorem begin_commentedHeader :
    (begin Script.backend { scope := .locally } UpdateFile.commentedHeader
      { world := Script.steady }).1.toOption.map (·.stage) = some (.ready demoHeader {}) := by
  decide +kernel

theorem begin_dates_plain :
    let begun := begin Script.backend { scope := .locally } UpdateFile.commentedHeader
      { world := Script.steady }
    begun.1.toOption.map (·.stage) = some (.ready demoHeader {}) ∧
      ∃ values, SqlValue.readInsert?
          (Statement.insertValidityRow demoHeader 5 "2020-01-01 00:00:00") =
          some ("DEMOVLD", values) ∧ values.length = 9 ∧
        SqlValue.texts values = ["2001-01-01 00:00:00", "2002-01-01 00:00:00", "1", "1",
          "2001-01-01 00:00:00", "2020-01-01 00:00:00"].map String.toList := by
  intro begun
  have hStage : begun.1.toOption.map (·.stage) = some (.ready demoHeader {}) :=
    begin_commentedHeader
  refine ⟨hStage, ?_⟩
  obtain ⟨block, hBlock, hReady⟩ := Option.map_eq_some_iff.mp hStage
  have hBegin : begun = (.ok block, begun.2) := by
    cases hOutcome : begun.1 with
    | error e =>
      rw [hOutcome] at hBlock
      cases hBlock
    | ok other =>
      rw [hOutcome] at hBlock
      cases hBlock
      exact Prod.ext hOutcome rfl
  exact (begin_dates hBegin hReady).2 (by decide) 5 "2020-01-01 00:00:00" (by decide)

/-- A first date that goes on past its closing quote. -/
def strayLine : String :=
  "BEGIN_TABLE DEMO '2001-01-01 00:00:00', '9' '2002-01-01 00:00:00' 1 '2001-01-01 00:00:00'"

def strayHeader : Header := { demoHeader with validFrom := "2001-01-01 00:00:00', '9" }

/-- An accepted date need not be a timestamp, and what it brings along becomes a value of its own;
without that a validity row has nine values. -/
theorem begin_dates_stray :
    ((begin Script.backend { scope := .locally } strayLine
        { world := Script.steady }).1.toOption.map (·.stage) = some (.ready strayHeader {}) ∧
      ¬IsDateTime isAsciiDigit strayHeader.validFrom.toList ∧
      (SqlValue.readInsert? (Statement.insertValidityRow strayHeader 5 "2020-01-01 00:00:00")).map
        (SqlValue.texts ·.2) = some (["2001-01-01 00:00:00", "9", "2002-01-01 00:00:00", "1", "1",
          "2001-01-01 00:00:00", "2020-01-01 00:00:00"].map String.toList)) ∧
    (begin Script.backend { scope := .locally } UpdateFile.commentedHeader
      { world := Script.steady }).1.toOption.map (·.stage) = some (.ready demoHeader {}) ∧
      (SqlValue.readInsert? (Statement.insertValidityRow demoHeader 5 "2020-01-01 00:00:00")).map
        (·.2.length) = some 9 := by
  exact ⟨⟨by decide +kernel, by decide, by decide +kernel⟩, begin_commentedHeader,
    by decide +kernel⟩

end Block

end ValidityTables
