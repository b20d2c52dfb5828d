import ValidityTables.Access
import ValidityTables.Proofs.FileTexts

/-! # Only the first entry of each variable

The user and the password are cut at their first semicolon, but the address is searched as a whole.
What its first entry gives is not changed by later ones, as no host or database can start in a
later entry where the first one has both. Where it has no database, the search goes on, and the
account gets the database of a later entry.
-/

namespace ValidityTables.Access

open Text

section Reader

theorem takeWhile_stop {p : Char → Bool} {stop : Char} (h : p stop = false)
    (front back : List Char) :
    (front ++ stop :: back).takeWhile p = front.takeWhile p := by
  induction front with
  | nil => rw [List.nil_append, List.takeWhile_cons, h, List.takeWhile_nil]; rfl
  | cons c front ih => rw [List.cons_append, List.takeWhile_cons, List.takeWhile_cons, ih]

variable {front later : List Char} {found : List Char × List Char}

theorem isWord_semicolon : isWord ';' = false := by decide +kernel

theorem readHost?_within {passed cs : List Char} (h : readHost? passed cs = some found) :
    found.2 <:+: cs := by
  induction cs generalizing passed with
  | nil => cases h
  | cons c rest ih =>
    simp only [readHost?] at h
    split at h
    · cases h
      exact (List.takeWhile_prefix isWord).isInfix.trans (List.suffix_cons c rest).isInfix
    · exact (ih h).trans (List.suffix_cons c rest).isInfix

theorem readHost?_append {passed : List Char} (h : readHost? passed front = some found) :
    readHost? passed (front ++ ';' :: later) = some found := by
  induction front generalizing passed with
  | nil => cases h
  | cons c front ih =>
    simp only [List.cons_append, readHost?, takeWhile_stop isWord_semicolon] at h ⊢
    split at h
    · rename_i hFound
      rw [if_pos hFound, h]
    · rename_i hOther
      rw [if_neg hOther, ih h]

theorem readHost?_later {passed : List Char} (hNone : readHost? passed front = none)
    (h : readHost? passed (front ++ ';' :: later) = some found) : found.2 <:+: later := by
  -- The semicolon is no word character, so no database begins before it and ends behind it.
  induction front generalizing passed with
  | nil =>
    simp only [List.nil_append, readHost?] at h
    rw [if_neg (by simp)] at h
    exact readHost?_within h
  | cons c front ih =>
    simp only [List.cons_append, readHost?, takeWhile_stop isWord_semicolon] at hNone h
    split at hNone
    · cases hNone
    · rename_i hOther
      rw [if_neg hOther] at h
      exact ih hNone h

theorem readLine?_within {cs : List Char} (h : readLine? cs = some found) : found.2 <:+: cs := by
  fun_induction readLine? cs with
  | case1 rest => exact (readHost?_within h).trans (List.suffix_append ['/', '/'] rest).isInfix
  | case2 c rest _ ih => exact (ih h).trans (List.suffix_cons c rest).isInfix
  | case3 => cases h

/-- Two slashes are not divided by a semicolon. -/
theorem readLine?_cons_append {c : Char} {rest : List Char}
    (h : ∀ more, c = '/' → rest = '/' :: more → False) :
    readLine? (c :: (rest ++ ';' :: later)) = readLine? (rest ++ ';' :: later) := by
  rw [readLine?]
  rintro more rfl hMore
  cases rest with
  | nil => cases hMore
  | cons d rest =>
    obtain ⟨rfl, -⟩ := List.cons.inj hMore
    exact h rest rfl rfl

theorem readLine?_append (h : readLine? front = some found) :
    readLine? (front ++ ';' :: later) = some found := by
  fun_induction readLine? front with
  | case1 rest => exact readHost?_append h
  | case2 c rest hOther ih =>
    rw [List.cons_append, readLine?_cons_append hOther]
    exact ih h
  | case3 => cases h

theorem readLine?_later (hNone : readLine? front = none)
    (h : readLine? (front ++ ';' :: later) = some found) : found.2 <:+: later := by
  fun_induction readLine? front with
  | case1 rest => exact readHost?_later hNone h
  | case2 c rest hOther ih =>
    rw [List.cons_append, readLine?_cons_append hOther] at h
    exact ih hNone h
  | case3 =>
    rw [List.nil_append, readLine?] at h
    · exact readLine?_within h
    · simp

/-- Later entries lengthen the last line of the first one, and may bring further lines. -/
theorem readAddress?_cut (front later : List Char) : ∃ (init : List (List Char))
    (last tail : List Char) (more : List (List Char)),
    later.splitOn '\n' = tail :: more ∧
    readAddress? front = (init.findSome? readLine?).or (readLine? last) ∧
    readAddress? (front ++ ';' :: later) = (init.findSome? readLine?).or
      ((readLine? (last ++ ';' :: tail)).or (more.findSome? readLine?)) := by
  obtain ⟨tail, more, hLater⟩ := List.exists_cons_of_ne_nil (List.splitOn_ne_nil '\n' later)
  obtain ⟨init, last, first, others, hFront, hBack, hBoth⟩ :=
    splitOn_append '\n' front (';' :: later)
  rw [List.splitOn_cons_eq_if_modifyHead, if_neg (by decide), hLater, List.modifyHead_cons] at hBack
  obtain ⟨rfl, rfl⟩ := List.cons.inj hBack
  refine ⟨init, last, tail, more, hLater, ?_, ?_⟩
  · rw [readAddress?, hFront, List.findSome?_append, List.findSome?_singleton]
  · rw [readAddress?, hBoth, List.findSome?_append, List.findSome?_cons]
    cases readLine? (last ++ ';' :: tail) <;> rfl

theorem readAddress?_append (h : readAddress? front = some found) :
    readAddress? (front ++ ';' :: later) = some found := by
  obtain ⟨init, last, tail, more, -, hFront, hBoth⟩ := readAddress?_cut front later
  rw [hFront, Option.or_eq_some_iff] at h
  obtain hInit | ⟨hInit, hLast⟩ := h
  · rw [hBoth, hInit, Option.some_or]
  · rw [hBoth, hInit, Option.none_or, readLine?_append hLast, Option.some_or]

theorem readAddress?_later (hNone : readAddress? front = none)
    (h : readAddress? (front ++ ';' :: later) = some found) : found.2 <:+: later := by
  obtain ⟨init, last, tail, more, hLater, hFront, hBoth⟩ := readAddress?_cut front later
  have hLines : ∀ line ∈ tail :: more, line <:+: later := by
    intro line hMem
    exact isInfix_of_mem_splitOn (hLater ▸ hMem)
  rw [hFront, Option.or_eq_none_iff] at hNone
  rw [hBoth, hNone.1, Option.none_or, Option.or_eq_some_iff] at h
  obtain hTail | ⟨-, hMore⟩ := h
  · exact (readLine?_later hNone.2 hTail).trans (hLines tail List.mem_cons_self)
  · obtain ⟨line, hMem, hLine⟩ := List.exists_of_findSome?_eq_some hMore
    exact (readLine?_within hLine).trans (hLines line (List.mem_cons_of_mem _ hMem))

end Reader

section Parts

theorem firstEntry_cut (entries : String) : (firstEntry entries).toList = entries.toList ∨
    ∃ later, entries.toList = (firstEntry entries).toList ++ ';' :: later := by
  rw [firstEntry, String.toList_ofList]
  have hWhole := entries.toList.takeWhile_append_dropWhile (p := (· != ';'))
  cases hDropped : entries.toList.dropWhile (· != ';') with
  | nil =>
    rw [hDropped, List.append_nil] at hWhole
    exact .inl hWhole
  | cons c later =>
    have hHead := List.head?_dropWhile_not (· != ';') entries.toList
    rw [hDropped] at hHead
    obtain rfl : c = ';' := by simpa using hHead
    rw [hDropped] at hWhole
    exact .inr ⟨later, hWhole.symm⟩

theorem firstEntry_firstEntry (entries : String) :
    firstEntry (firstEntry entries) = firstEntry entries := by
  unfold firstEntry
  rw [String.toList_ofList, List.takeWhile_takeWhile]
  simp only [and_self, Bool.decide_eq_true]

variable {url other user password : String} {access : Access}

def cannotParse (url : String) : UpdateError :=
  .invalidConfig ("cannot parse ENV_TSQL_URL: " ++ url)

theorem ofParts_unread (h : readAddress? url.toList = none) :
    ofParts url user password = .error (cannotParse url) := by
  rw [ofParts, h]
  rfl

theorem ofParts_read {found : List Char × List Char} (h : readAddress? url.toList = some found)
    (hOther : readAddress? other.toList = some found) :
    ofParts url user password = ofParts other (firstEntry user) (firstEntry password) := by
  unfold ofParts
  rw [h, hOther, firstEntry_firstEntry, firstEntry_firstEntry]

theorem ofParts_eq_ok (h : ofParts url user password = .ok access) :
    (∃ found, readAddress? url.toList = some found ∧ access.database.toList = found.2) ∧
      access.user = firstEntry user ∧
      access.password =
        if firstEntry password = "\\0" then none else some (firstEntry password) := by
  unfold ofParts at h
  split at h
  · cases h
  · rename_i address database hRead
    split at h
    · cases h
    · cases h
      exact ⟨⟨_, hRead, String.toList_ofList⟩, rfl, rfl⟩

/-- The account that the first entries give. -/
def ofFirst (url user password : String) : Except UpdateError Access :=
  ofParts (firstEntry url) (firstEntry user) (firstEntry password)

/-- Where the first entry of the address has no database, the account can only get one from later
entries. In all other cases the first entries alone make the account. -/
theorem ofParts_firstEntry (url user password : String) :
    (ofParts url user password = ofFirst url user password ∨
      ofFirst url user password = .error (cannotParse (firstEntry url)) ∧
      ∀ access, ofParts url user password = .ok access → ∃ later,
        url.toList = (firstEntry url).toList ++ ';' :: later ∧
        access.database.toList <:+: later) ∧
    ∀ access, ofParts url user password = .ok access → access.user = firstEntry user ∧
      access.password =
        if firstEntry password = "\\0" then none else some (firstEntry password) := by
  constructor
  · cases hFirst : readAddress? (firstEntry url).toList with
    | some found =>
      left
      refine ofParts_read ?_ hFirst
      obtain hSame | ⟨later, hCut⟩ := firstEntry_cut url
      · rw [← hSame, hFirst]
      · rw [hCut, readAddress?_append hFirst]
    | none =>
      right
      refine ⟨ofParts_unread hFirst, ?_⟩
      intro access hWhole
      obtain ⟨⟨found, hFound, hDatabase⟩, -⟩ := ofParts_eq_ok hWhole
      obtain hSame | ⟨later, hCut⟩ := firstEntry_cut url
      · rw [hSame, hFound] at hFirst
        cases hFirst
      · rw [hCut] at hFound
        exact ⟨later, hCut, hDatabase ▸ readAddress?_later hFirst hFound⟩
  · intro access hWhole
    exact (ofParts_eq_ok hWhole).2

/-- An address whose first entry has no database. -/
theorem ofParts_firstEntry_later :
    ofParts "mysql://host;mysql://other/db" "u" "p" =
      .ok ⟨"other", "host;mysql:/", none, "u", some "p"⟩ ∧
    ofFirst "mysql://host;mysql://other/db" "u" "p" = .error (cannotParse "mysql://host") := by
  decide +kernel

end Parts

end ValidityTables.Access
