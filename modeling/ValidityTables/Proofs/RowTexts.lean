import ValidityTables.Rows
import ValidityTables.Proofs.UnsignedFields

/-! # The texts stored for data lines

A data line is stored without the blanks at its end. Where unsigned fields are converted, its text
has the fields of the line as they are converted, and those that differ from what was written are
counted. So a line has one text and one count, and `storedAs_iff` says that it is stored with them.
-/

namespace ValidityTables

open Text

/-- The line is this row with blanks behind it. -/
structure EndsBlank (line row : String) : Prop where
  blanks : ∃ after, AllBlank after ∧ line.toList = row.toList ++ after
  last : ∀ c, row.toList.getLast? = some c → isBlank c = false

/-- What is stored for a data line, and how many fields were converted for it. -/
inductive StoredAs (line : String) : Bool → String → Nat → Prop
  | written {row : String} : EndsBlank line row → StoredAs line false row 0
  | converted {row text : String} : EndsBlank line row →
      List.Forall₂ Converts (rowFields row) (rowFields text) →
      StoredAs line true text
        (((rowFields row).zip (rowFields text)).countP fun (field, stored) => field ≠ stored)

theorem endsBlank_iff {line row : String} : EndsBlank line row ↔ edit trimEnd line = row := by
  constructor
  · rintro ⟨⟨after, hAfter, hLine⟩, hLast⟩
    rw [edit, hLine, trimEnd_append hAfter, trimEnd_of_last hLast, String.ofList_toList]
  · rintro rfl
    obtain ⟨after, hAfter, hLine⟩ := exists_trimEnd line.toList
    refine ⟨⟨after, hAfter, ?_⟩, fun c hLast => ?_⟩
    · rwa [edit, String.toList_ofList]
    · rw [edit, String.toList_ofList] at hLast
      exact isBlank_getLast?_trimEnd hLast

/-- The text and the count of a data line are those that are stored. -/
theorem storedAs_iff {convert : Bool} {line text : String} {count : Nat} :
    StoredAs line convert text count ↔ Rows.stored convert line = (text, count) := by
  constructor
  · intro h
    cases h with
    | written hRow =>
      rw [Rows.stored, endsBlank_iff.mp hRow]
      rfl
    | @converted row text hRow hFields =>
      have hText : (convertUnsigned row).1 = text := by
        apply eq_of_rowFields
        rw [rowFields_convertUnsigned, forall₂_converts_iff.mp hFields]
      rw [Rows.stored, endsBlank_iff.mp hRow, if_pos rfl]
      refine Prod.ext hText ?_
      rw [convertUnsigned_changes, hText]
  · intro h
    have hRow : EndsBlank line (edit trimEnd line) := endsBlank_iff.mpr rfl
    cases convert with
    | false =>
      cases h
      exact .written hRow
    | true =>
      have hConverted : convertUnsigned (edit trimEnd line) = (text, count) := h
      have hFields : List.Forall₂ Converts (rowFields (edit trimEnd line)) (rowFields text) := by
        rw [forall₂_converts_iff, ← rowFields_convertUnsigned, hConverted]
      have hCount := convertUnsigned_changes (edit trimEnd line)
      simp only [hConverted] at hCount
      rw [hCount]
      exact .converted hRow hFields

theorem forall₂_storedAs_iff {convert : Bool} {lines : List String}
    {stored : List (String × Nat)} :
    List.Forall₂ (fun line (text, count) => StoredAs line convert text count) lines stored ↔
      stored = lines.map (Rows.stored convert) := by
  constructor
  · intro h
    induction h with
    | nil => rfl
    | cons hFirst _ ih => rw [ih, List.map_cons, storedAs_iff.mp hFirst]
  · rintro rfl
    rw [List.forall₂_map_right_iff, List.forall₂_same]
    exact fun line _ => storedAs_iff.mpr rfl

end ValidityTables
