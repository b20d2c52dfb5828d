import ValidityTables.Text.Blank
import ValidityTables.Text.Digit
import ValidityTables.Text.Lowercase
import Mathlib.Data.List.TakeWhile

/-! # Words between blanks

The words of a text are what it spells between blanks, so blanks at its ends do not matter to them.
Neither do they matter to its lower case: a blank is not a letter, and no letter is looked at past
it.
-/

namespace ValidityTables.Text

def AllBlank (cs : List Char) : Prop := ∀ c ∈ cs, isBlank c = true

def IsAscii (cs : List Char) : Prop := ∀ c ∈ cs, c.toNat < 128

/-- What keeps two parts of a line apart. -/
structure IsGap (cs : List Char) : Prop where
  nonempty : cs ≠ []
  blank : AllBlank cs

structure IsWordText (cs : List Char) : Prop where
  nonempty : cs ≠ []
  unbroken : ∀ c ∈ cs, isBlank c = false

instance (cs : List Char) : Decidable (AllBlank cs) :=
  List.decidableBAll (fun c : Char => isBlank c = true) cs

instance (cs : List Char) : Decidable (IsAscii cs) :=
  List.decidableBAll (fun c : Char => c.toNat < 128) cs

instance (cs : List Char) : Decidable (IsGap cs) :=
  decidable_of_iff (cs ≠ [] ∧ AllBlank cs) ⟨fun h => ⟨h.1, h.2⟩, fun h => ⟨h.nonempty, h.blank⟩⟩

instance (cs : List Char) : Decidable (IsWordText cs) :=
  decidable_of_iff (cs ≠ [] ∧ cs.all (!isBlank ·) = true)
    ⟨fun h => ⟨h.1, by simpa using h.2⟩, fun h => ⟨h.nonempty, by simpa using h.unbroken⟩⟩

theorem allBlank_nil : AllBlank [] := by simp [AllBlank]

section Blank

def blankPoints : List Nat :=
  List.range' 9 5 ++ [0x20, 0x85, 0xA0, 0x1680] ++ List.range' 0x2000 11 ++
    [0x2028, 0x2029, 0x202F, 0x205F, 0x3000]

theorem mem_blankPoints {c : Char} (h : isBlank c = true) : c.toNat ∈ blankPoints := by
  simp only [isBlank, Bool.or_eq_true, Bool.and_eq_true, decide_eq_true_eq, beq_iff_eq] at h
  simp only [blankPoints, List.mem_append, List.mem_range'_1, List.mem_cons, List.not_mem_nil,
    or_false]
  omega

/-- No blank is a digit or a letter, and the lower case of a blank is itself. -/
structure Caseless (c : Char) : Prop where
  digit : isDigit c = false
  cased : isCased c = false
  ignorable : isCaseIgnorable c = false
  lower : lowercaseChar c = [c] ∧ c.toLower = c
  sigma : c ≠ Char.ofNat 0x3A3

theorem caseless_of_blank {c : Char} (h : isBlank c = true) : Caseless c := by
  have hAll : ∀ n ∈ blankPoints, isDigit (Char.ofNat n) = false ∧
      isCased (Char.ofNat n) = false ∧ isCaseIgnorable (Char.ofNat n) = false ∧
      (lowercaseChar (Char.ofNat n) = [Char.ofNat n] ∧
        (Char.ofNat n).toLower = Char.ofNat n) ∧ Char.ofNat n ≠ Char.ofNat 0x3A3 := by
    decide +kernel
  obtain ⟨hDigit, hCased, hIgnorable, hLower, hSigma⟩ := hAll _ (mem_blankPoints h)
  rw [Char.ofNat_toNat] at hDigit hCased hIgnorable hLower hSigma
  exact ⟨hDigit, hCased, hIgnorable, hLower, hSigma⟩

end Blank

section Trim

variable {before cs after : List Char}

theorem trimStart_append (h : AllBlank before) : trimStart (before ++ cs) = trimStart cs :=
  List.dropWhile_append_of_pos h

theorem trimStart_of_head (h : ∀ c, cs.head? = some c → isBlank c = false) : trimStart cs = cs := by
  cases cs with
  | nil => rfl
  | cons c rest => simp [trimStart, h c rfl]

theorem trimEnd_append (h : AllBlank after) : trimEnd (cs ++ after) = trimEnd cs := by
  have hReversed : AllBlank after.reverse := fun c hMem => h c (List.mem_reverse.mp hMem)
  rw [trimEnd, List.reverse_append]
  exact congrArg List.reverse (trimStart_append hReversed)

theorem trimEnd_of_last (h : ∀ c, cs.getLast? = some c → isBlank c = false) : trimEnd cs = cs := by
  have hReversed : trimStart cs.reverse = cs.reverse :=
    trimStart_of_head fun c hHead => h c (by simpa using hHead)
  rw [trimEnd]
  exact (congrArg List.reverse hReversed).trans (List.reverse_reverse cs)

theorem exists_trimStart (cs : List Char) :
    ∃ before, AllBlank before ∧ cs = before ++ trimStart cs :=
  ⟨cs.takeWhile isBlank, fun _ hMem => List.mem_takeWhile_imp hMem,
    (List.takeWhile_append_dropWhile ..).symm⟩

theorem exists_trimEnd (cs : List Char) : ∃ after, AllBlank after ∧ cs = trimEnd cs ++ after := by
  obtain ⟨front, hFront, hSplit⟩ := exists_trimStart cs.reverse
  refine ⟨front.reverse, fun c hMem => hFront c (List.mem_reverse.mp hMem), ?_⟩
  have h := congrArg List.reverse hSplit
  rwa [List.reverse_reverse, List.reverse_append] at h

theorem exists_trim (cs : List Char) :
    ∃ before after, AllBlank before ∧ AllBlank after ∧ cs = before ++ trim cs ++ after := by
  obtain ⟨before, hBefore, hStart⟩ := exists_trimStart cs
  obtain ⟨after, hAfter, hEnd⟩ := exists_trimEnd (trimStart cs)
  refine ⟨before, after, hBefore, hAfter, ?_⟩
  rw [List.append_assoc, trim, ← hEnd, ← hStart]

theorem isBlank_getLast?_trimEnd {c : Char} (h : (trimEnd cs).getLast? = some c) :
    isBlank c = false := by
  have hFirst := List.head?_dropWhile_not isBlank cs.reverse
  rw [trimEnd, List.getLast?_reverse] at h
  rw [h] at hFirst
  simpa using hFirst

/-- What ends with a character that is not blank is kept in front of anything. -/
theorem trimEnd_keeps {c : Char} (h : isBlank c = false) (rest : List Char) :
    trimEnd (cs ++ c :: rest) = cs ++ c :: trimEnd rest := by
  obtain ⟨after, hAfter, hRest⟩ := exists_trimEnd rest
  have hLast : ∀ last, (c :: trimEnd rest).getLast? = some last → isBlank last = false := by
    intro last hSome
    cases hTrimmed : trimEnd rest with
    | nil =>
      rw [hTrimmed] at hSome
      cases hSome
      exact h
    | cons first more =>
      rw [hTrimmed, List.getLast?_cons_cons, ← hTrimmed] at hSome
      exact isBlank_getLast?_trimEnd hSome
  conv => lhs; rw [hRest, ← List.cons_append, ← List.append_assoc]
  rw [trimEnd_append hAfter, trimEnd_of_last]
  intro last hSome
  rw [List.getLast?_append] at hSome
  cases hLater : (c :: trimEnd rest).getLast? with
  | none => simp at hLater
  | some other =>
    rw [hLater] at hSome
    cases hSome
    exact hLast _ hLater

theorem trim_cons_of_isBlank {c : Char} (h : isBlank c = true) (rest : List Char) :
    trim (c :: rest) = trim rest := by
  simp [trim, trimStart, h]

theorem trim_append (h : AllBlank after) (cs : List Char) : trim (cs ++ after) = trim cs := by
  induction cs with
  | nil =>
    have hStart : trimStart after = [] := by
      rw [← List.append_nil after, trimStart_append h]
      rfl
    rw [List.nil_append, trim, hStart]
    rfl
  | cons c rest ih =>
    cases hBlank : isBlank c with
    | true => rw [List.cons_append, trim_cons_of_isBlank hBlank, trim_cons_of_isBlank hBlank, ih]
    | false =>
      have hStart (cs : List Char) : trimStart (c :: cs) = c :: cs :=
        trimStart_of_head fun _ hHead => Option.some.inj hHead ▸ hBlank
      rw [List.cons_append, trim, trim, hStart, hStart, ← List.cons_append, trimEnd_append h]

/-- What begins a line after blanks is kept by trimming, if it ends with no blank itself. -/
theorem trim_gap_append {gap front : List Char} {c : Char} (hGap : AllBlank gap)
    (hFront : (front ++ [c]).head?.any isBlank = false) (hLast : isBlank c = false)
    (rest : List Char) : trim (gap ++ (front ++ c :: rest)) = front ++ c :: trimEnd rest := by
  have hStart : trimStart (front ++ c :: rest) = front ++ c :: rest := by
    refine trimStart_of_head fun a hHead => ?_
    cases front <;> cases hHead <;> exact hFront
  rw [trim, trimStart_append hGap, hStart, trimEnd_keeps hLast]

end Trim

theorem not_mem_of_mem_splitOn {sep : Char} {cs field : List Char} (h : field ∈ cs.splitOn sep) :
    sep ∉ field := by
  induction cs generalizing field with
  | nil =>
    rw [List.splitOn_nil, List.mem_singleton] at h
    rw [h]
    exact List.not_mem_nil
  | cons c rest ih =>
    rw [List.splitOn_cons_eq_if_modifyHead] at h
    split at h
    · obtain rfl | hRest := List.mem_cons.mp h
      · exact List.not_mem_nil
      · exact ih hRest
    · rename_i hOther
      cases hFields : rest.splitOn sep with
      | nil => exact absurd hFields (List.splitOn_ne_nil sep rest)
      | cons first more =>
        rw [hFields] at h ih
        obtain rfl | hRest := List.mem_cons.mp h
        · rw [List.mem_cons, not_or]
          exact ⟨fun hSame => hOther (beq_iff_eq.mpr hSame.symm), ih List.mem_cons_self⟩
        · exact ih (List.mem_cons_of_mem _ hRest)

section Words

@[simp] theorem words_nil : words [] = [] := rfl

/-- A text is cut at a blank. -/
theorem words_cut {c : Char} (h : isBlank c = true) (before after : List Char) :
    words (before ++ c :: after) = words before ++ words after := by
  rw [words, List.splitOnP_append_cons before after h, List.filter_append, words, words]

theorem words_cons_blank {c : Char} (h : isBlank c = true) (cs : List Char) :
    words (c :: cs) = words cs := words_cut h [] cs

theorem words_blank_append {before : List Char} (h : AllBlank before) (cs : List Char) :
    words (before ++ cs) = words cs := by
  induction before with
  | nil => rfl
  | cons c rest ih =>
    rw [List.cons_append, words_cons_blank (h c List.mem_cons_self)]
    exact ih fun other hMem => h other (List.mem_cons_of_mem _ hMem)

theorem words_append_blank {after : List Char} (h : AllBlank after) (cs : List Char) :
    words (cs ++ after) = words cs := by
  cases after with
  | nil => rw [List.append_nil]
  | cons c rest =>
    have hRest := words_blank_append (fun other hMem => h other (List.mem_cons_of_mem _ hMem)) []
    rw [words_cut (h c List.mem_cons_self), ← List.append_nil rest, hRest, words_nil,
      List.append_nil]

theorem IsWordText.words {word : List Char} (h : IsWordText word) : words word = [word] := by
  rw [Text.words, List.splitOnP_eq_singleton h.unbroken]
  cases word with
  | nil => exact absurd rfl h.nonempty
  | cons c rest => rfl

/-- Words with a gap in front of each. -/
inductive Spaced : List (List Char) → List Char → Prop
  | nil : Spaced [] []
  | cons {gap word : List Char} {rest : List (List Char)} {text : List Char} : IsGap gap →
      IsWordText word → Spaced rest text → Spaced (word :: rest) (gap ++ word ++ text)

theorem Spaced.gap {list : List (List Char)} {text : List Char} (h : Spaced list text) :
    text = [] ∨ ∃ c rest, text = c :: rest ∧ isBlank c = true := by
  cases h with
  | nil => exact .inl rfl
  | @cons gap word _ rest hGap _ _ =>
    obtain ⟨c, more, rfl⟩ := List.exists_cons_of_ne_nil hGap.nonempty
    exact .inr ⟨c, more ++ word ++ rest, by simp, hGap.blank c List.mem_cons_self⟩

theorem Spaced.words {list : List (List Char)} {text : List Char} (h : Spaced list text) :
    words text = list := by
  induction h with
  | nil => rfl
  | @cons gap word _ text hGap hWord hRest ih =>
    rw [List.append_assoc, words_blank_append hGap.blank]
    obtain rfl | ⟨c, more, rfl, hBlank⟩ := hRest.gap
    · rw [List.append_nil, hWord.words, ← ih, words_nil]
    · rw [words_cons_blank hBlank] at ih
      rw [words_cut hBlank, hWord.words, ih]
      rfl

/-- A text has no words, or begins with one after blanks. -/
theorem words_split (cs : List Char) : trimStart cs = [] ∧ words cs = [] ∨
    ∃ word rest, IsWordText word ∧ trimStart cs = word ++ rest ∧
      (∀ c, rest.head? = some c → isBlank c = true) ∧ words cs = word :: words rest := by
  obtain ⟨before, hBefore, hSplit⟩ := exists_trimStart cs
  have hWords : words cs = words (trimStart cs) := by
    conv => lhs; rw [hSplit]
    exact words_blank_append hBefore _
  rw [hWords]
  cases hText : trimStart cs with
  | nil => exact .inl ⟨rfl, rfl⟩
  | cons c more =>
    right
    have hFirst : isBlank c = false := by
      have hHead := List.head?_dropWhile_not isBlank cs
      rw [show cs.dropWhile isBlank = c :: more from hText] at hHead
      simpa using hHead
    let word := (c :: more).takeWhile fun c => !isBlank c
    let rest := (c :: more).dropWhile fun c => !isBlank c
    have hParts : word ++ rest = c :: more := List.takeWhile_append_dropWhile
    have hWord : IsWordText word := by
      constructor
      · simp [word, hFirst]
      · intro other hMem
        simpa using List.mem_takeWhile_imp hMem
    have hRest : ∀ c, rest.head? = some c → isBlank c = true := by
      intro other hHead
      have hNot := List.head?_dropWhile_not (fun c => !isBlank c) (c :: more)
      rw [show (c :: more).dropWhile (fun c => !isBlank c) = rest from rfl, hHead] at hNot
      simpa using hNot
    refine ⟨word, rest, hWord, hParts.symm, hRest, ?_⟩
    rw [← hParts]
    cases hList : rest with
    | nil => rw [List.append_nil, hWord.words, words_nil]
    | cons other later =>
      have hBlank := hRest other (by rw [hList]; rfl)
      rw [words_cut hBlank, hWord.words, words_cons_blank hBlank]
      rfl

end Words

section Lowercase

theorem startsCased_cut {c : Char} (h : isBlank c = true) (before after : List Char) :
    startsCased (before ++ c :: after) = startsCased before := by
  obtain ⟨-, hCased, hIgnorable, -, -⟩ := caseless_of_blank h
  induction before with
  | nil => simp [startsCased, hCased, hIgnorable]
  | cons first rest ih =>
    cases hFirst : isCaseIgnorable first with
    | true => simpa [startsCased, hFirst] using ih
    | false => simp [startsCased, hFirst]

/-- Only what stands before the nearest blank is looked at. -/
theorem lowercaseAfter_cut {c : Char} (h : isBlank c = true) (near far cs : List Char) :
    lowercaseAfter (near ++ c :: far) cs = lowercaseAfter near cs := by
  induction cs generalizing near with
  | nil => rfl
  | cons first rest ih =>
    have hRest := ih (first :: near)
    rw [List.cons_append] at hRest
    rw [lowercaseAfter, lowercaseAfter, startsCased_cut h, hRest]

theorem lowercase_cons_blank {c : Char} (h : isBlank c = true) (cs : List Char) :
    lowercase (c :: cs) = c :: lowercase cs := by
  obtain ⟨-, -, -, ⟨hLower, -⟩, hSigma⟩ := caseless_of_blank h
  have hRest := lowercaseAfter_cut h [] [] cs
  rw [List.nil_append] at hRest
  rw [lowercase, lowercaseAfter, if_neg hSigma, hLower, hRest]
  rfl

theorem lowercaseAfter_blank {cs : List Char} (h : AllBlank cs) (passed : List Char) :
    lowercaseAfter passed cs = cs := by
  induction cs generalizing passed with
  | nil => rfl
  | cons c rest ih =>
    obtain ⟨-, -, -, ⟨hLower, -⟩, hSigma⟩ := caseless_of_blank (h c List.mem_cons_self)
    rw [lowercaseAfter, if_neg hSigma, hLower,
      ih (fun other hMem => h other (List.mem_cons_of_mem _ hMem))]
    rfl

theorem lowercaseAfter_append_blank {after : List Char} (h : AllBlank after)
    (passed cs : List Char) :
    lowercaseAfter passed (cs ++ after) = lowercaseAfter passed cs ++ after := by
  induction cs generalizing passed with
  | nil => exact lowercaseAfter_blank h passed
  | cons first rest ih =>
    have hCased : startsCased (rest ++ after) = startsCased rest := by
      cases after with
      | nil => rw [List.append_nil]
      | cons c more => exact startsCased_cut (h c List.mem_cons_self) rest more
    rw [List.cons_append, lowercaseAfter, lowercaseAfter, ih, hCased, List.append_assoc]

theorem lowercase_surrounded {before after : List Char} (hBefore : AllBlank before)
    (hAfter : AllBlank after) (cs : List Char) :
    lowercase (before ++ cs ++ after) = before ++ lowercase cs ++ after := by
  rw [List.append_assoc, List.append_assoc]
  induction before with
  | nil => exact lowercaseAfter_append_blank hAfter [] cs
  | cons c rest ih =>
    rw [List.cons_append, lowercase_cons_blank (hBefore c List.mem_cons_self),
      ih fun other hMem => hBefore other (List.mem_cons_of_mem _ hMem)]
    rfl

theorem words_lowercase_surrounded {before after : List Char} (hBefore : AllBlank before)
    (hAfter : AllBlank after) (cs : List Char) :
    words (lowercase (before ++ cs ++ after)) = words (lowercase cs) := by
  rw [lowercase_surrounded hBefore hAfter, words_append_blank hAfter, words_blank_append hBefore]

/-- Lower case is a matter of single characters in a text of ASCII characters and blanks. -/
theorem lowercase_eq_map {cs : List Char} (h : ∀ c ∈ cs, c.toNat < 128 ∨ isBlank c = true) :
    lowercase cs = cs.map Char.toLower := by
  suffices hAfter : ∀ passed, lowercaseAfter passed cs = cs.map Char.toLower from hAfter []
  induction cs with
  | nil => exact fun _ => rfl
  | cons c rest ih =>
    intro passed
    have hFirst : c ≠ Char.ofNat 0x3A3 ∧ lowercaseChar c = [c.toLower] := by
      obtain hAscii | hBlank := h c List.mem_cons_self
      · refine ⟨?_, if_pos hAscii⟩
        rintro rfl
        exact absurd hAscii (by decide)
      · obtain ⟨-, -, -, ⟨hLower, hSame⟩, hSigma⟩ := caseless_of_blank hBlank
        exact ⟨hSigma, by rw [hLower, hSame]⟩
    rw [lowercaseAfter, if_neg hFirst.1, hFirst.2,
      ih (fun other hMem => h other (List.mem_cons_of_mem _ hMem)) (c :: passed)]
    rfl

theorem toNat_lt_of_toLower {c : Char} (h : c.toLower.toNat < 128) : c.toNat < 128 := by
  unfold Char.toLower at h
  split at h
  · rename_i hUpper
    have hMax : c.toNat ≤ 90 := hUpper.2
    omega
  · exact h

/-- Words in any case, read in lower case. -/
theorem Spaced.words_lowercase {list : List (List Char)} {text : List Char} (h : Spaced list text)
    (hAscii : ∀ word ∈ list, IsAscii word) :
    Text.words (lowercase text) = list.map (·.map Char.toLower) := by
  have hLower : ∀ n < 128, isBlank (Char.ofNat n) = false →
      isBlank (Char.ofNat n).toLower = false := by decide
  suffices hBoth : (∀ c ∈ text, c.toNat < 128 ∨ isBlank c = true) ∧
      Spaced (list.map (·.map Char.toLower)) (text.map Char.toLower) by
    rw [lowercase_eq_map hBoth.1, hBoth.2.words]
  induction h with
  | nil => exact ⟨by simp, .nil⟩
  | @cons gap word rest text hGap hWord _ ih =>
    obtain ⟨hFirst, hLater⟩ := List.forall_mem_cons.mp hAscii
    obtain ⟨hChars, hSpaced⟩ := ih hLater
    have hSame : gap.map Char.toLower = gap := by
      conv => rhs; rw [← List.map_id gap]
      exact List.map_congr_left fun c hMem => (caseless_of_blank (hGap.blank c hMem)).lower.2
    constructor
    · intro c hMem
      rw [List.mem_append, List.mem_append] at hMem
      obtain (hIn | hIn) | hIn := hMem
      · exact .inr (hGap.blank c hIn)
      · exact .inl (hFirst c hIn)
      · exact hChars c hIn
    · rw [List.map_append, List.map_append, hSame]
      refine .cons hGap ⟨by simpa using hWord.nonempty, fun c hMem => ?_⟩ hSpaced
      obtain ⟨c, hIn, rfl⟩ := List.mem_map.mp hMem
      have hStays := hLower c.toNat (hFirst c hIn)
      rw [Char.ofNat_toNat] at hStays
      exact hStays (hWord.unbroken c hIn)

end Lowercase

end ValidityTables.Text
