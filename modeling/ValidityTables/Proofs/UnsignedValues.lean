import ValidityTables.Proofs.SqlValues
import ValidityTables.Proofs.UnsignedFields

/-! # Values of a row, converted one by one

A conversion cuts a row at every comma, also at those within string literals. A value outside of
literals is one field. A literal may be several: the first of them has its opening quote and the
last its closing one, so neither is an integer, but a text between two of its commas may be.
-/

namespace ValidityTables

open Text

/-- A text as a literal spells it, with its quotes doubled. -/
def doubled (content : List Char) : List Char :=
  content.flatMap fun c => if c = '\'' then ['\'', '\''] else [c]

def IsLiteral (value : List Char) : Prop :=
  ∃ content, trim value = '\'' :: (doubled content ++ ['\''])

/-- A number, `NULL` or any other text without commas and quotes, between blanks. -/
structure IsBare (value : List Char) : Prop where
  filled : trim value ≠ []
  undivided : ',' ∉ value
  unquoted : '\'' ∉ value

structure IsValueList (row : String) (values : List (List Char)) : Prop where
  filled : values ≠ []
  joined : row.toList = [','].intercalate values
  spelled : ∀ value ∈ values, IsLiteral value ∨ IsBare value

/-- An integer that a conversion replaces. -/
def IsAbove (field : List Char) : Prop :=
  ∃ v, IsInteger (trim field) v ∧ 2147483647 < v ∧ v < 2 ^ 127

theorem isSome_signedField? {field : List Char} :
    (signedField? field).isSome ↔ IsAbove field := by
  rw [Option.isSome_iff_exists]
  constructor
  · rintro ⟨text, hText⟩
    obtain ⟨v, hInteger, hAbove, hHigh, -⟩ := signedField?_eq_some.mp hText
    exact ⟨v, hInteger, hAbove, hHigh⟩
  · rintro ⟨v, hInteger, hAbove, hHigh⟩
    exact ⟨_, signedField?_eq_some.mpr ⟨v, hInteger, hAbove, hHigh, rfl⟩⟩

instance (field : List Char) : Decidable (IsAbove field) :=
  decidable_of_iff _ isSome_signedField?

/-- The texts between two commas of a value. -/
def between (value : List Char) : List (List Char) := (value.splitOn ',').tail.dropLast

/-- What becomes of a literal: only the texts between two of its commas are looked at. -/
structure ConvertsLiteral (value converted : List Char) : Prop where
  opening : (converted.splitOn ',').head? = (value.splitOn ',').head?
  closing : (converted.splitOn ',').getLast? = (value.splitOn ',').getLast?
  inner : List.Forall₂ Converts (between value) (between converted)
  unchanged : converted = value ↔ ∀ part ∈ between value, ¬IsAbove part

inductive ConvertsValue (value converted : List Char) : Prop
  | literal : IsLiteral value → ConvertsLiteral value converted → ConvertsValue value converted
  | bare : IsBare value → Converts value converted → ConvertsValue value converted

section Split

theorem splitOn_joined {values : List (List Char)} (h : values ≠ []) :
    ([','].intercalate values).splitOn ',' = values.flatMap (·.splitOn ',') := by
  induction values with
  | nil => exact absurd rfl h
  | cons value rest ih =>
    cases rest with
    | nil => simp
    | cons next rest =>
      rw [List.intercalate_cons_cons, List.append_assoc, List.singleton_append,
        List.splitOn_append_cons_self, ih (List.cons_ne_nil _ _), ← List.flatMap_cons]

theorem splitOn_first {front : List Char} (h : ',' ∉ front) (rest : List Char) :
    ∃ first more, (front ++ rest).splitOn ',' = (front ++ first) :: more := by
  obtain ⟨init, last, first, more, hFront, -, hBoth⟩ := splitOn_append ',' front rest
  rw [List.splitOn_eq_singleton h, ← List.nil_append [front]] at hFront
  obtain ⟨rfl, hLast⟩ := List.append_inj' hFront rfl
  obtain rfl := List.singleton_inj.mp hLast
  exact ⟨first, more, hBoth⟩

theorem splitOn_last {back : List Char} (h : ',' ∉ back) (rest : List Char) :
    ∃ more last, (rest ++ back).splitOn ',' = more ++ [last ++ back] := by
  obtain ⟨init, last, first, more, -, hBack, hBoth⟩ := splitOn_append ',' rest back
  rw [List.splitOn_eq_singleton h] at hBack
  obtain ⟨rfl, rfl⟩ := List.cons.inj hBack
  exact ⟨init, last, hBoth⟩

end Split

section Value

theorem trim_keeps {c : Char} {cs : List Char} (h : isBlank c = false) (hMem : c ∈ cs) :
    c ∈ trim cs := by
  obtain ⟨before, after, hBefore, hAfter, hSplit⟩ := exists_trim cs
  rw [hSplit, List.mem_append, List.mem_append] at hMem
  obtain (hMem | hMem) | hMem := hMem
  · exact absurd (hBefore c hMem) (by simp [h])
  · exact hMem
  · exact absurd (hAfter c hMem) (by simp [h])

theorem not_isAbove_of_quote {field : List Char} (h : '\'' ∈ field) : ¬IsAbove field := by
  rintro ⟨v, hInteger, -, -⟩
  exact (hInteger.plain_chars _ (trim_keeps (by decide) h)).1.2 rfl

theorem comma_not_mem_blank {gap : List Char} (h : AllBlank gap) : ',' ∉ gap := by
  intro hMem
  have hBlank := h ',' hMem
  revert hBlank
  decide

theorem IsLiteral.exists_text {value : List Char} (h : IsLiteral value) :
    ∃ before content after, AllBlank before ∧ AllBlank after ∧
      value = before ++ '\'' :: (content ++ '\'' :: after) := by
  obtain ⟨content, hText⟩ := h
  obtain ⟨before, after, hBefore, hAfter, hSplit⟩ := exists_trim value
  refine ⟨before, doubled content, after, hBefore, hAfter, ?_⟩
  rw [hText] at hSplit
  rw [hSplit]
  simp

theorem IsLiteral.quote_mem {value : List Char} (h : IsLiteral value) : '\'' ∈ value := by
  obtain ⟨before, content, after, -, -, rfl⟩ := h.exists_text
  simp

/-- The first part of a literal has its opening quote, and the last one the closing quote. -/
theorem IsLiteral.ends {value : List Char} (h : IsLiteral value) :
    (∀ first ∈ (value.splitOn ',').head?, '\'' ∈ first) ∧
      ∀ last ∈ (value.splitOn ',').getLast?, '\'' ∈ last := by
  obtain ⟨before, content, after, hBefore, hAfter, rfl⟩ := h.exists_text
  constructor
  · have hFront : ',' ∉ before ++ ['\''] := by simp [comma_not_mem_blank hBefore]
    obtain ⟨first, more, hSplit⟩ := splitOn_first hFront (content ++ '\'' :: after)
    rw [List.append_assoc, List.singleton_append] at hSplit
    rw [hSplit]
    intro part hPart
    obtain rfl := Option.some.inj hPart
    simp
  · have hBack : ',' ∉ '\'' :: after := by simp [comma_not_mem_blank hAfter]
    obtain ⟨more, last, hSplit⟩ := splitOn_last hBack (before ++ '\'' :: content)
    rw [List.append_assoc, List.cons_append] at hSplit
    rw [hSplit, List.getLast?_concat]
    intro part hPart
    obtain rfl := Option.some.inj hPart
    simp

theorem countP_inner {p : List Char → Bool} {parts : List (List Char)}
    (hFirst : ∀ first ∈ parts.head?, p first = false)
    (hLast : ∀ last ∈ parts.getLast?, p last = false) :
    parts.countP p = parts.tail.dropLast.countP p := by
  cases parts with
  | nil => rfl
  | cons first more =>
    have hNot := hFirst first rfl
    rw [List.countP_cons_of_neg (by simp [hNot]), List.tail_cons]
    obtain rfl | ⟨front, last, rfl⟩ := List.eq_nil_or_concat' more
    · rfl
    · have hEnd := hLast last (by simp [List.getLast?_cons])
      rw [List.dropLast_concat, List.countP_append, List.countP_singleton, hEnd]
      simp

theorem convertField_eq_self {field : List Char} : convertField field = field ↔ ¬IsAbove field := by
  rw [← isSome_signedField?, ← ne_convertField_iff, not_ne_iff, eq_comm]

theorem convertFields_eq_self {cs : List Char} :
    convertFields cs = cs ↔ (cs.splitOn ',').countP (IsAbove ·) = 0 := by
  have hParts : (cs.splitOn ',').map convertField = cs.splitOn ',' ↔
      (cs.splitOn ',').countP (IsAbove ·) = 0 := by
    conv => lhs; rhs; rw [← List.map_id (cs.splitOn ',')]
    rw [List.map_inj_left, List.countP_eq_zero]
    refine forall₂_congr fun field _ => ?_
    rw [id, convertField_eq_self, decide_eq_true_iff]
  rw [← hParts]
  constructor
  · intro h
    rw [← splitOn_convertFields, h]
  · intro h
    rw [convertFields, h, List.intercalate_splitOn]

theorem IsLiteral.countP_parts {value : List Char} (h : IsLiteral value) :
    (value.splitOn ',').countP (IsAbove ·) = (between value).countP (IsAbove ·) := by
  obtain ⟨hFirst, hLast⟩ := h.ends
  apply countP_inner
  · intro first hHead
    simpa using not_isAbove_of_quote (hFirst first hHead)
  · intro last hEnd
    simpa using not_isAbove_of_quote (hLast last hEnd)

theorem map_convertField_quoted {parts : Option (List Char)} (h : ∀ part ∈ parts, '\'' ∈ part) :
    parts.map convertField = parts := by
  cases parts with
  | none => rfl
  | some part =>
    rw [Option.map_some, convertField_eq_self.mpr (not_isAbove_of_quote (h part rfl))]

theorem convertFields_literal {value : List Char} (h : IsLiteral value) :
    ConvertsLiteral value (convertFields value) := by
  obtain ⟨hFirst, hLast⟩ := h.ends
  have hSplit := splitOn_convertFields value
  constructor
  · rw [hSplit, List.head?_map, map_convertField_quoted hFirst]
  · rw [hSplit, List.getLast?_map, map_convertField_quoted hLast]
  · rw [between, between, hSplit, ← List.map_tail, ← List.map_dropLast,
      List.forall₂_map_right_iff, List.forall₂_same]
    intro part _
    exact converts_convertField part
  · rw [convertFields_eq_self, h.countP_parts, List.countP_eq_zero]
    simp

theorem IsBare.splitOn {value : List Char} (h : IsBare value) : value.splitOn ',' = [value] :=
  List.splitOn_eq_singleton h.undivided

theorem convertsValue_convertFields {value : List Char} (h : IsLiteral value ∨ IsBare value) :
    ConvertsValue value (convertFields value) := by
  obtain hLiteral | hBare := h
  · exact .literal hLiteral (convertFields_literal hLiteral)
  · refine .bare hBare ?_
    rw [convertFields, hBare.splitOn, List.map_singleton, List.intercalate_singleton]
    exact converts_convertField value

/-- The integers to replace in a value: the value itself, or those between the commas of a
literal. -/
theorem countP_parts {value : List Char} (h : IsLiteral value ∨ IsBare value) :
    (value.splitOn ',').countP (IsAbove ·) =
      [value].countP (IsAbove ·) + (between value).countP (IsAbove ·) := by
  obtain hLiteral | hBare := h
  · have hNot := not_isAbove_of_quote hLiteral.quote_mem
    have hNone : [value].countP (IsAbove ·) = 0 := by simpa using hNot
    rw [hLiteral.countP_parts, hNone, Nat.zero_add]
  · rw [between, hBare.splitOn]
    rfl

end Value

section Row

theorem convertFields_joined {values : List (List Char)} (h : values ≠ []) :
    convertFields ([','].intercalate values) = [','].intercalate (values.map convertFields) := by
  -- A text is determined by its fields, and those of the whole are those of the values.
  have hParts : (convertFields ([','].intercalate values)).splitOn ',' =
      ([','].intercalate (values.map convertFields)).splitOn ',' := by
    rw [splitOn_convertFields, splitOn_joined h, splitOn_joined (by simpa using h),
      List.map_flatMap, List.flatMap_map]
    simp only [splitOn_convertFields]
  have hJoined := congrArg [','].intercalate hParts
  rwa [List.intercalate_splitOn, List.intercalate_splitOn] at hJoined

theorem countP_joined {values : List (List Char)}
    (h : ∀ value ∈ values, IsLiteral value ∨ IsBare value) :
    (values.flatMap (·.splitOn ',')).countP (IsAbove ·) =
      values.countP (IsAbove ·) + (values.flatMap between).countP (IsAbove ·) := by
  induction values with
  | nil => rfl
  | cons value rest ih =>
    have hValue := countP_parts (h value List.mem_cons_self)
    have hRest := ih fun other hMem => h other (List.mem_cons_of_mem _ hMem)
    have hFirst : (value :: rest).countP (IsAbove ·) =
        [value].countP (IsAbove ·) + rest.countP (IsAbove ·) := by
      rw [← List.countP_append, List.singleton_append]
    rw [List.flatMap_cons, List.countP_append, List.flatMap_cons, List.countP_append, hFirst]
    omega

/-- Outside of literals a conversion replaces exactly the integers above the signed range. Within
a literal it replaces what looks like one between two of its commas, and nothing else; and it
counts both. -/
theorem convertUnsigned_values {row : String} {values : List (List Char)}
    (h : IsValueList row values) :
    ∃ converted, (convertUnsigned row).1.toList = [','].intercalate converted ∧
      List.Forall₂ ConvertsValue values converted ∧
      (convertUnsigned row).2 =
        values.countP (IsAbove ·) + (values.flatMap between).countP (IsAbove ·) := by
  refine ⟨values.map convertFields, ?_, ?_, ?_⟩
  · rw [convertUnsigned_toList, h.joined, convertFields_joined h.filled]
  · rw [List.forall₂_map_right_iff, List.forall₂_same]
    exact fun value hMem => convertsValue_convertFields (h.spelled value hMem)
  · rw [← countP_joined h.spelled, ← splitOn_joined h.filled, ← h.joined]
    refine List.countP_congr fun field _ => ?_
    rw [isSome_signedField?, decide_eq_true_iff]

/-- An integer outside of literals, a literal with no integer between two commas, and one with. -/
def listedRow : String := "3000000000, NULL, 'it''s, 3000000000','a,3000000000,b'"

theorem convertUnsigned_values_listed :
    IsValueList listedRow (["3000000000", " NULL", " 'it''s, 3000000000'",
      "'a,3000000000,b'"].map String.toList) ∧
    (convertUnsigned listedRow).1 = "-1294967296, NULL, 'it''s, 3000000000','a,-1294967296,b'" ∧
    (convertUnsigned listedRow).2 = 2 := by
  have hList : IsValueList listedRow (["3000000000", " NULL", " 'it''s, 3000000000'",
      "'a,3000000000,b'"].map String.toList) := by
    refine ⟨by decide, by decide, ?_⟩
    simp only [List.map_cons, List.map_nil, List.forall_mem_cons]
    refine ⟨.inr ?_, .inr ?_, .inl ⟨"it's, 3000000000".toList, by decide⟩,
      .inl ⟨"a,3000000000,b".toList, by decide⟩, by simp⟩ <;> constructor <;> decide
  obtain ⟨-, -, -, hCount⟩ := convertUnsigned_values hList
  exact ⟨hList, by decide +kernel, hCount.trans (by decide +kernel)⟩

/-- A literal that does not stay as it is. -/
theorem convertUnsigned_values_within :
    IsValueList "'a,3000000000,b'" ["'a,3000000000,b'".toList] ∧
    IsLiteral "'a,3000000000,b'".toList ∧
    convertUnsigned "'a,3000000000,b'" = ("'a,-1294967296,b'", 1) := by
  have hLiteral : IsLiteral "'a,3000000000,b'".toList := ⟨"a,3000000000,b".toList, by decide⟩
  have hList : IsValueList "'a,3000000000,b'" ["'a,3000000000,b'".toList] := by
    refine ⟨by decide, by decide, ?_⟩
    rw [List.forall_mem_singleton]
    exact .inl hLiteral
  exact ⟨hList, hLiteral, by decide +kernel⟩

end Row

end ValidityTables
