import ValidityTables.Proofs.Timestamps

/-! # A validity row determines its block

The statement that inserts a validity row is read back as a list of values. With an epoch the list
has a number where it otherwise has a string literal, so it is known which value is which, and from
the values the header, the sequence number and the date of insertion are known.
-/

namespace ValidityTables

open Text

theorem validityTable_injective : Function.Injective validityTable := by
  intro table other h
  rw [← String.toList_inj, validityTable, validityTable, String.toList_append,
    String.toList_append] at h
  exact String.toList_inj.mp (List.append_cancel_right h)

theorem SimMask.value_injective : Function.Injective SimMask.value := by
  intro mask other h
  cases mask <;> cases other <;> simp_all [value]

theorem SimMask.eq_of_text {mask other : SimMask} (h : toString mask.value = toString other.value) :
    mask = other := by
  have hInteger := isInteger_toString mask.value
  rw [h] at hInteger
  exact value_injective (hInteger.unique (isInteger_toString other.value))

namespace Header

/-- The values of an epoch are numbers, and what comes after them is a text. -/
theorem epochValues_append_inj {epoch other : Option UInt8} {cs ds : List Char}
    {rest more : List SqlValue}
    (h : epochValues epoch ++ .text cs :: rest = epochValues other ++ .text ds :: more) :
    epoch = other ∧ rest = more := by
  cases epoch <;> cases other <;>
    simp only [epochValues, List.nil_append, List.cons_append, List.cons.injEq, reduceCtorEq,
      false_and, SqlValue.number.injEq, SqlValue.text.injEq, Int.natCast_inj,
      UInt8.toNat_inj] at h
  · exact ⟨rfl, h.2⟩
  · exact ⟨congrArg some h.1, h.2.2.2⟩

theorem validityRow_inj {header other : Header} {seqno number : UInt32} {inserted date : String}
    (hTable : header.table = other.table)
    (h : header.validityRow seqno inserted = other.validityRow number date) :
    header = other ∧ seqno = number ∧ inserted = date := by
  simp only [validityRow, List.cons_append, List.nil_append, List.cons.injEq,
    SqlValue.number.injEq, SqlValue.text.injEq] at h
  obtain ⟨hSeqno, hFrom, hTo, hRest⟩ := h
  obtain ⟨hEpoch, hRest⟩ := epochValues_append_inj hRest
  simp only [List.cons.injEq, SqlValue.number.injEq, SqlValue.text.injEq, and_true] at hRest
  obtain ⟨hMask, hTask, hAggregate, hCreated, hInserted⟩ := hRest
  refine ⟨?_, UInt32.toNat_inj.mp (Int.natCast_inj.mp hSeqno), String.toList_inj.mp hInserted⟩
  cases header
  cases other
  simp only [mk.injEq]
  exact ⟨hTable, String.toList_inj.mp hFrom, String.toList_inj.mp hTo,
    UInt64.toNat_inj.mp (Int.natCast_inj.mp hAggregate), String.toList_inj.mp hCreated,
    Int64.toInt_inj.mp hTask, SimMask.eq_of_text (String.toList_inj.mp hMask), hEpoch⟩

end Header

namespace Statement

/-- Of a table whose name is a word, and without quotes in the dates, all that a validity row is
made from is known from the statement. -/
theorem insertValidityRow_injective {header other : Header} {seqno number : UInt32}
    {inserted date : String} (hName : IsName header.table) (hNameOther : IsName other.table)
    (hDates : ∀ text ∈ inserted :: header.dates, '\'' ∉ text.toList)
    (hDatesOther : ∀ text ∈ date :: other.dates, '\'' ∉ text.toList)
    (h : insertValidityRow header seqno inserted = insertValidityRow other number date) :
    header = other ∧ seqno = number ∧ inserted = date := by
  simp only [Header.dates, List.forall_mem_cons, List.not_mem_nil, false_implies, implies_true,
    and_true] at hDates hDatesOther
  obtain ⟨hInserted, hFrom, hTo, hCreated⟩ := hDates
  obtain ⟨hDate, hFromOther, hToOther, hCreatedOther⟩ := hDatesOther
  have hRead : SqlValue.readInsert? (insertValidityRow header seqno inserted) =
      some (header.validityTable, header.validityRow seqno inserted) :=
    SqlValue.readInsert?_insertValidityRow hName hFrom hTo hCreated hInserted
  have hReadOther : SqlValue.readInsert? (insertValidityRow other number date) =
      some (other.validityTable, other.validityRow number date) :=
    SqlValue.readInsert?_insertValidityRow hNameOther hFromOther hToOther hCreatedOther hDate
  rw [h, hReadOther] at hRead
  obtain ⟨hTable, hRow⟩ := Prod.mk.inj (Option.some.inj hRead.symm)
  exact Header.validityRow_inj (validityTable_injective hTable) hRow

/-- A header whose first date looks like the values of an epoch. -/
def crowdedHeader : Header :=
  { Block.demoHeader with validFrom := "2001-01-01 00:00:00, 5, 0", task := -3, epoch := some 0 }

theorem insertValidityRow_injective_crowded :
    (IsName crowdedHeader.table ∧
      ∀ text ∈ "2020-01-01 00:00:00" :: crowdedHeader.dates, '\'' ∉ text.toList) ∧
    insertValidityRow crowdedHeader 7 "2020-01-01 00:00:00" =
      insertValidityRow ⟨"DEMO", "2001-01-01 00:00:00, 5, 0", "2002-01-01 00:00:00", 1,
        "2001-01-01 00:00:00", -3, .data, some 0⟩ 7 "2020-01-01 00:00:00" ∧
    crowdedHeader = ⟨"DEMO", "2001-01-01 00:00:00, 5, 0", "2002-01-01 00:00:00", 1,
      "2001-01-01 00:00:00", -3, .data, some 0⟩ := by
  have hName : IsName crowdedHeader.table := List.all_eq_true.mp (by decide +kernel)
  have hDates : ∀ text ∈ "2020-01-01 00:00:00" :: crowdedHeader.dates, '\'' ∉ text.toList := by
    decide
  have hSame : insertValidityRow crowdedHeader 7 "2020-01-01 00:00:00" =
      insertValidityRow ⟨"DEMO", "2001-01-01 00:00:00, 5, 0", "2002-01-01 00:00:00", 1,
        "2001-01-01 00:00:00", -3, .data, some 0⟩ 7 "2020-01-01 00:00:00" := by decide +kernel
  exact ⟨⟨hName, hDates⟩, hSame,
    (insertValidityRow_injective hName hName hDates hDates hSame).1⟩

end Statement

end ValidityTables
