import ValidityTables.Unsigned
import ValidityTables.Proofs.Numerals
import Mathlib.Data.List.Forall2

/-! # Fields of a row, converted one by one

A conversion keeps the fields of a row apart and looks at each of them alone: an integer above the
signed range is replaced by the number with the same low bits, and everything else stays as it was
written. Where no integer is beyond the unsigned range, all replacements are in the signed one, so
that a second conversion finds nothing to do.
-/

namespace ValidityTables

open Text

def rowFields (row : String) : List (List Char) := row.toList.splitOn ','

/-- What a field becomes. Integers of more than 128 bits are no integers here. -/
inductive Converts (field : List Char) : List Char → Prop
  | signed {v : Int} : IsInteger (trim field) v → 2147483647 < v → v < 2 ^ 127 →
      Converts field (toString (v - 4294967296)).toList
  | kept : (∀ v, IsInteger (trim field) v → 2147483647 < v → 2 ^ 127 ≤ v) → Converts field field

/-- The text is that of the negative number with the same 32 low bits as the field. -/
def Wraps (field text : List Char) : Prop :=
  ∃ v w : Int, IsInteger (trim field) v ∧ text = (toString w).toList ∧ -2147483648 ≤ w ∧ w ≤ -1 ∧
    w % 2 ^ 32 = v % 2 ^ 32

section Field

theorem signedField?_eq_some {field text : List Char} : signedField? field = some text ↔
    ∃ v, IsInteger (trim field) v ∧ 2147483647 < v ∧ v < 2 ^ 127 ∧
      text = (toString (v - 4294967296)).toList := by
  unfold signedField?
  constructor
  · intro h
    cases hRead : readInt 127 (trim field) with
    | error fault =>
      rw [hRead] at h
      cases h
    | ok v =>
      rw [hRead] at h
      obtain ⟨hInteger, -, hHigh⟩ := readInt_eq_ok.mp hRead
      obtain ⟨hAbove, hText⟩ := Option.ite_none_right_eq_some.mp h
      exact ⟨v, hInteger, hAbove, hHigh, (Option.some.inj hText).symm⟩
  · rintro ⟨v, hInteger, hAbove, hHigh, rfl⟩
    rw [readInt_eq_ok.mpr ⟨hInteger, by omega, hHigh⟩]
    exact if_pos hAbove

theorem signedField?_eq_none {field : List Char} : signedField? field = none ↔
    ∀ v, IsInteger (trim field) v → 2147483647 < v → 2 ^ 127 ≤ v := by
  rw [Option.eq_none_iff_forall_ne_some]
  constructor
  · intro h v hInteger hAbove
    by_contra hHigh
    exact h _ (signedField?_eq_some.mpr ⟨v, hInteger, hAbove, by omega, rfl⟩)
  · intro h text hText
    obtain ⟨v, hInteger, hAbove, hHigh, -⟩ := signedField?_eq_some.mp hText
    have hLow := h v hInteger hAbove
    omega

def convertField (field : List Char) : List Char := (signedField? field).getD field

theorem converts_convertField (field : List Char) : Converts field (convertField field) := by
  unfold convertField
  cases hSigned : signedField? field with
  | none => exact .kept (signedField?_eq_none.mp hSigned)
  | some text =>
    obtain ⟨v, hInteger, hAbove, hHigh, rfl⟩ := signedField?_eq_some.mp hSigned
    exact .signed hInteger hAbove hHigh

theorem converts_iff {field text : List Char} :
    Converts field text ↔ text = convertField field := by
  constructor
  · intro h
    unfold convertField
    cases h with
    | signed hInteger hAbove hHigh =>
      rw [signedField?_eq_some.mpr ⟨_, hInteger, hAbove, hHigh, rfl⟩]
      rfl
    | kept hOther =>
      rw [signedField?_eq_none.mpr hOther]
      rfl
  · rintro rfl
    exact converts_convertField field

theorem forall₂_converts_iff {fields texts : List (List Char)} :
    List.Forall₂ Converts fields texts ↔ texts = fields.map convertField := by
  constructor
  · intro h
    induction h with
    | nil => rfl
    | cons hFirst _ ih => rw [ih, converts_iff.mp hFirst, List.map_cons]
  · rintro rfl
    rw [List.forall₂_map_right_iff, List.forall₂_same]
    exact fun field _ => converts_convertField field

/-- A field and its replacement cannot look alike, as they stand for two numbers. -/
theorem ne_convertField_iff {field : List Char} :
    field ≠ convertField field ↔ (signedField? field).isSome := by
  unfold convertField
  cases hSigned : signedField? field with
  | none => simp
  | some text =>
    obtain ⟨v, hInteger, -, -, rfl⟩ := signedField?_eq_some.mp hSigned
    have hReplaced := isInteger_toString (v - 4294967296)
    simp only [Option.getD_some, Option.isSome_some, iff_true]
    intro hSame
    rw [hSame, hReplaced.trim_eq] at hInteger
    have hEqual := hInteger.unique hReplaced
    omega

theorem comma_not_mem_convertField {field : List Char} (h : ',' ∉ field) :
    ',' ∉ convertField field := by
  unfold convertField
  cases hSigned : signedField? field with
  | none => exact h
  | some text =>
    obtain ⟨v, -, -, -, rfl⟩ := signedField?_eq_some.mp hSigned
    intro hMem
    exact ((isInteger_toString _).plain_chars _ hMem).1.1 rfl

/-- What is within the unsigned range has a replacement in the signed one. -/
theorem wraps_convertField {field : List Char}
    (hMax : ∀ v, IsInteger (trim field) v → v < 2 ^ 127 → v ≤ 4294967295) :
    convertField field = field ∨ Wraps field (convertField field) := by
  unfold convertField
  cases hSigned : signedField? field with
  | none => exact .inl rfl
  | some text =>
    obtain ⟨v, hInteger, hAbove, hHigh, rfl⟩ := signedField?_eq_some.mp hSigned
    have hUnsigned := hMax v hInteger hHigh
    refine .inr ⟨v, v - 4294967296, hInteger, rfl, ?_, ?_, ?_⟩ <;> omega

theorem signedField?_convertField {field : List Char}
    (hMax : ∀ v, IsInteger (trim field) v → v < 2 ^ 127 → v ≤ 4294967295) :
    signedField? (convertField field) = none := by
  obtain hKept | ⟨v, w, -, hText, -, hNegative, -⟩ := wraps_convertField hMax
  · rw [← Option.not_isSome_iff_eq_none, ← ne_convertField_iff, hKept, hKept]
    exact fun hChanged => hChanged rfl
  · rw [signedField?_eq_none, hText, (isInteger_toString w).trim_eq]
    intro other hOther hAbove
    have hEqual := hOther.unique (isInteger_toString w)
    omega

end Field

section Row

def convertFields (cs : List Char) : List Char :=
  [','].intercalate ((cs.splitOn ',').map convertField)

theorem convertUnsigned_toList (row : String) :
    (convertUnsigned row).1.toList = convertFields row.toList :=
  String.toList_ofList

theorem splitOn_convertFields (cs : List Char) :
    (convertFields cs).splitOn ',' = (cs.splitOn ',').map convertField := by
  refine List.splitOn_intercalate ',' ?_ (by simp [List.splitOn_ne_nil])
  intro text hText
  obtain ⟨field, hField, rfl⟩ := List.mem_map.mp hText
  exact comma_not_mem_convertField (not_mem_of_mem_splitOn hField)

theorem rowFields_convertUnsigned (row : String) :
    rowFields (convertUnsigned row).1 = (rowFields row).map convertField := by
  rw [rowFields, convertUnsigned_toList]
  exact splitOn_convertFields row.toList

theorem convertUnsigned_count (row : String) :
    (convertUnsigned row).2 = (rowFields row).countP fun field => field ≠ convertField field := by
  refine List.countP_congr fun field _ => ?_
  rw [decide_eq_true_iff, ne_convertField_iff]

/-- A row is its fields with commas between them. -/
theorem eq_of_rowFields {row other : String} (h : rowFields row = rowFields other) :
    row = other := by
  have hJoined := congrArg [','].intercalate h
  rw [rowFields, rowFields, List.intercalate_splitOn, List.intercalate_splitOn] at hJoined
  exact String.toList_inj.mp hJoined

theorem convertUnsigned_changes (row : String) :
    (convertUnsigned row).2 = ((rowFields row).zip (rowFields (convertUnsigned row).1)).countP
      fun (field, text) => field ≠ text := by
  have hPairs : (rowFields row).zip ((rowFields row).map convertField) =
      (rowFields row).map fun field => (field, convertField field) := by
    conv => lhs; rw [← List.map_id (rowFields row), List.map_map]
    exact List.zip_map'
  rw [convertUnsigned_count, rowFields_convertUnsigned, hPairs, List.countP_map]
  rfl

theorem fits_of_readInt {field : List Char} {v : Int} (hRead : readInt 127 (trim field) = .ok v)
    (hAbove : maxSigned < v) : -2 ^ 127 ≤ v - wordCount ∧ v - wordCount < 2 ^ 127 := by
  obtain ⟨-, hLow, hHigh⟩ := readInt_eq_ok.mp hRead
  unfold maxSigned at hAbove
  unfold wordCount
  omega

/-- Where no replacement is above the signed range, a second conversion finds nothing. -/
theorem convertUnsigned_again {row : String}
    (hMax : ∀ field ∈ rowFields row, ∀ v, IsInteger (trim field) v → v < 2 ^ 127 →
      v ≤ 4294967295) :
    convertUnsigned (convertUnsigned row).1 = ((convertUnsigned row).1, 0) := by
  have hStays : ∀ field ∈ rowFields (convertUnsigned row).1, convertField field = field := by
    rw [rowFields_convertUnsigned]
    intro text hText
    obtain ⟨field, hField, rfl⟩ := List.mem_map.mp hText
    rw [convertField, signedField?_convertField (hMax field hField), Option.getD_none]
  apply Prod.ext
  · apply eq_of_rowFields
    rw [rowFields_convertUnsigned (convertUnsigned row).1]
    conv => rhs; rw [← List.map_id (rowFields (convertUnsigned row).1)]
    exact List.map_congr_left hStays
  · rw [convertUnsigned_count, List.countP_eq_zero]
    intro field hField
    simp [hStays field hField]

/-- A conversion replaces exactly the integers above the signed range and counts what it changes.
Where none of them is beyond the unsigned range, the replacements are the numbers with the same
bits, and a second conversion changes nothing. -/
theorem convertUnsigned_fields (row : String) :
    List.Forall₂ Converts (rowFields row) (rowFields (convertUnsigned row).1) ∧
    (convertUnsigned row).2 = ((rowFields row).zip (rowFields (convertUnsigned row).1)).countP
      (fun (field, text) => field ≠ text) ∧
    (∀ field ∈ rowFields row, ∀ v, readInt 127 (trim field) = .ok v → maxSigned < v →
      -2 ^ 127 ≤ v - wordCount ∧ v - wordCount < 2 ^ 127) ∧
    ((∀ field ∈ rowFields row, ∀ v, IsInteger (trim field) v → v < 2 ^ 127 → v ≤ 4294967295) →
      List.Forall₂ (fun field text => text = field ∨ Wraps field text) (rowFields row)
        (rowFields (convertUnsigned row).1) ∧
      convertUnsigned (convertUnsigned row).1 = ((convertUnsigned row).1, 0)) := by
  refine ⟨?_, convertUnsigned_changes row, fun field _ v => fits_of_readInt, ?_⟩
  · exact forall₂_converts_iff.mpr (rowFields_convertUnsigned row)
  · intro hMax
    refine ⟨?_, convertUnsigned_again hMax⟩
    rw [rowFields_convertUnsigned, List.forall₂_map_right_iff, List.forall₂_same]
    exact fun field hField => wraps_convertField (hMax field hField)

/-- Two fields above the signed range, one of them between blanks. -/
def wrappingRow : String := "2288517136,\t4294967295 ,2147483647,x"

theorem convertUnsigned_fields_wrapping :
    (∀ field ∈ rowFields wrappingRow, ∀ v, IsInteger (trim field) v → v < 2 ^ 127 →
      v ≤ 4294967295) ∧
    convertUnsigned wrappingRow = ("-2006450160,-1,2147483647,x", 2) ∧
    convertUnsigned "-2006450160,-1,2147483647,x" = ("-2006450160,-1,2147483647,x", 0) := by
  have hMax : ∀ field ∈ rowFields wrappingRow, ∀ v, IsInteger (trim field) v → v < 2 ^ 127 →
      v ≤ 4294967295 := by
    have hReads : ∀ field ∈ rowFields wrappingRow, ∀ v ∈ (readInt 127 (trim field)).toOption,
        v ≤ 4294967295 := by decide +kernel
    intro field hField v hInteger hHigh
    by_contra hAbove
    have hRead := readInt_eq_ok.mpr ⟨hInteger, by omega, hHigh⟩
    exact hAbove (hReads field hField v (by rw [hRead]; rfl))
  have hConverted : convertUnsigned wrappingRow = ("-2006450160,-1,2147483647,x", 2) := by
    decide +kernel
  obtain ⟨-, -, -, hWraps⟩ := convertUnsigned_fields wrappingRow
  have hAgain := (hWraps hMax).2
  rw [hConverted] at hAgain
  exact ⟨hMax, hConverted, hAgain⟩

end Row

end ValidityTables
