import ValidityTables.Proofs.Store
import Mathlib.Data.List.TakeWhile

/-! # The texts that a file brings into statements

A table is named by a header, whose name is a run of word characters. The text stored for a row has
no characters but those of the row, commas, and the digits and signs of converted fields. So what is
known of the characters of a file holds for the statements that are built from it.
-/

namespace ValidityTables

open Text

theorem isName_validityTable {table : String} (h : IsName table) :
    IsName (validityTable table) := by
  intro c hMem
  rw [validityTable, String.toList_append, List.mem_append] at hMem
  obtain hTable | hSuffix := hMem
  · exact h c hTable
  · have hLetters : ("VLD" : String).toList.all isWord = true := by decide +kernel
    exact List.all_eq_true.mp hLetters c hSuffix

theorem validityTable_ne (table : String) : validityTable table ≠ table := by
  intro h
  have hLength := congrArg String.length h
  simp [validityTable] at hLength

theorem dropMarker?_append (marker rest : List Char) :
    Header.dropMarker? marker (marker ++ rest) = some rest := by
  induction marker with
  | nil => rfl
  | cons c marker ih => simpa [Header.dropMarker?] using ih

theorem takeWhile_append_stop {α : Type} {p : α → Bool} {front rest : List α}
    (hFront : ∀ a ∈ front, p a = true) (hRest : ∀ a, rest.head? = some a → p a = false) :
    (front ++ rest).takeWhile p = front ∧ (front ++ rest).dropWhile p = rest := by
  rw [List.takeWhile_append_of_pos hFront, List.dropWhile_append_of_pos hFront]
  cases rest with
  | nil => simp
  | cons a rest => simp [hRest a rfl]

namespace Header

theorem run?_all {β : Type} {p : Char → Bool} {text rest : List (Place β)} {taken : List Char}
    (h : run? p text = some (taken, rest)) : ∀ c ∈ taken, p c = true := by
  unfold run? at h
  split at h
  · cases h
  · cases h
    intro c hMem
    obtain ⟨place, hPlace, rfl⟩ := List.mem_map.mp hMem
    have hTaken := List.mem_takeWhile_imp hPlace
    exact hTaken

theorem Fields.read?_isWord {line : List Char} {fields : Fields}
    (h : Fields.read? line = some fields) : ∀ c ∈ fields.table, isWord c = true := by
  simp only [Fields.read?, Option.bind_eq_bind, Option.bind_eq_some_iff, Option.pure_def] at h
  obtain ⟨_, _, _, _, ⟨table, _⟩, hRun, _, _, hFields⟩ := h
  cases hFields
  exact run?_all hRun

theorem parse_isName {line : String} {header : Header} (h : parse line = .ok header) :
    IsName header.table := by
  unfold parse at h
  simp only at h
  split at h
  · cases h
  · rename_i fields hFields
    split at h
    · cases h
    · split at h
      · cases h
      · cases h
        intro c hMem
        rw [ofFields, String.toList_ofList] at hMem
        exact Fields.read?_isWord hFields c hMem

end Header

theorem mem_trimEnd {c : Char} {cs : List Char} (h : c ∈ trimEnd cs) : c ∈ cs := by
  unfold trimEnd at h
  have hSuffix : cs.reverse.dropWhile isBlank <:+ cs.reverse := List.dropWhile_suffix _
  simpa using hSuffix.subset (List.mem_reverse.mp h)

theorem isDigit_of_mem_repr {c : Char} {n : Nat} (h : c ∈ n.repr.toList) : c.isDigit = true := by
  rw [Nat.toList_repr] at h
  exact Nat.isDigit_of_mem_toDigits (by decide) (by decide) h

theorem mem_toString_int {c : Char} {n : Int} (h : c ∈ (toString n).toList) :
    c = '-' ∨ c.isDigit = true := by
  rw [Int.toString_eq_repr, Int.repr_eq_if] at h
  split at h
  · exact .inr (isDigit_of_mem_repr h)
  · rw [String.toList_append, List.mem_append] at h
    obtain hSign | hDigits := h
    · exact .inl (by simpa using hSign)
    · exact .inr (isDigit_of_mem_repr hDigits)

theorem mem_intercalate {c sep : Char} {fields : List (List Char)} :
    c ∈ [sep].intercalate fields → c = sep ∨ ∃ field ∈ fields, c ∈ field := by
  induction fields with
  | nil => simp
  | cons field rest ih =>
    cases rest with
    | nil => simpa using Or.inr
    | cons next rest =>
      intro h
      rw [List.intercalate_cons_cons, List.mem_append, List.mem_append] at h
      obtain (hField | hSep) | hRest := h
      · exact .inr ⟨field, by simp, hField⟩
      · exact .inl (by simpa using hSep)
      · obtain hSep | ⟨other, hOther, hMem⟩ := ih hRest
        · exact .inl hSep
        · exact .inr ⟨other, List.mem_cons_of_mem _ hOther, hMem⟩

theorem isInfix_intercalate {sep : Char} {field : List Char} {fields : List (List Char)}
    (h : field ∈ fields) : field <:+: [sep].intercalate fields := by
  induction fields with
  | nil => cases h
  | cons first rest ih =>
    cases rest with
    | nil => simp [List.mem_singleton.mp h]
    | cons next rest =>
      rw [List.intercalate_cons_cons, List.append_assoc]
      obtain rfl | hRest := List.mem_cons.mp h
      · exact (List.prefix_append _ _).isInfix
      · rw [← List.append_assoc]
        exact (ih hRest).trans (List.suffix_append _ _).isInfix

theorem isInfix_of_mem_splitOn {sep : Char} {cs field : List Char} (h : field ∈ cs.splitOn sep) :
    field <:+: cs := by
  have hWhole : [sep].intercalate (cs.splitOn sep) = cs := List.intercalate_splitOn sep
  conv => rhs; rw [← hWhole]
  exact isInfix_intercalate h

/-- Two texts put together are cut where each of them is: the last piece of the first one and the
first of the second one become one. -/
theorem splitOn_append (sep : Char) (front back : List Char) :
    ∃ init last first more, front.splitOn sep = init ++ [last] ∧ back.splitOn sep = first :: more ∧
      (front ++ back).splitOn sep = init ++ (last ++ first) :: more := by
  obtain ⟨first, more, hBack⟩ := List.exists_cons_of_ne_nil (List.splitOn_ne_nil sep back)
  induction front with
  | nil => exact ⟨[], [], first, more, List.splitOn_nil sep, hBack, hBack⟩
  | cons c front ih =>
    obtain ⟨init, last, _, _, hFront, hSame, hBoth⟩ := ih
    obtain ⟨rfl, rfl⟩ := List.cons.inj (hBack.symm.trans hSame)
    rw [List.cons_append, List.splitOn_cons_eq_if_modifyHead, List.splitOn_cons_eq_if_modifyHead,
      hFront, hBoth]
    split
    · exact ⟨[] :: init, last, first, more, rfl, hBack, rfl⟩
    · cases init with
      | nil => exact ⟨[], c :: last, first, more, rfl, hBack, rfl⟩
      | cons piece init => exact ⟨(c :: piece) :: init, last, first, more, rfl, hBack, rfl⟩

theorem signedField?_chars {field text : List Char} (h : signedField? field = some text) :
    ∀ c ∈ text, c = '-' ∨ c.isDigit = true := by
  unfold signedField? at h
  split at h
  · split at h
    · cases h
      exact fun c => mem_toString_int
    · cases h
  · cases h

/-- What the stored text of a row is made of. -/
theorem stored_chars {convert : Bool} {line : String} {c : Char}
    (h : c ∈ (Rows.stored convert line).1.toList) :
    c ∈ line.toList ∨ c = ',' ∨ c = '-' ∨ c.isDigit = true := by
  have hTrimmed {c : Char} (h : c ∈ (edit trimEnd line).toList) : c ∈ line.toList := by
    rw [edit, String.toList_ofList] at h
    exact mem_trimEnd h
  unfold Rows.stored at h
  split at h
  · rw [convertUnsigned, String.toList_ofList] at h
    obtain hSep | ⟨text, hText, hMem⟩ := mem_intercalate h
    · exact .inr (.inl hSep)
    · obtain ⟨field, hField, rfl⟩ := List.mem_map.mp hText
      cases hSigned : signedField? field with
      | none =>
        rw [hSigned, Option.getD_none] at hMem
        exact .inl (hTrimmed ((isInfix_of_mem_splitOn hField).subset hMem))
      | some text =>
        rw [hSigned, Option.getD_some] at hMem
        exact .inr (.inr (signedField?_chars hSigned c hMem))
  · exact .inl (hTrimmed h)

theorem isPlain_stored (convert : Bool) {line : String} (h : IsPlain line) :
    IsPlain (Rows.stored convert line).1 := by
  intro c hMem
  obtain hLine | rfl | rfl | hDigit := stored_chars hMem
  · exact h c hLine
  · decide
  · decide
  · rintro hIn
    simp only [List.mem_cons, List.not_mem_nil, or_false] at hIn
    obtain rfl | rfl | rfl | rfl := hIn <;> cases hDigit

end ValidityTables
