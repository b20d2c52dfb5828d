import ValidityTables.Proofs.FileTexts
import ValidityTables.Proofs.Numerals
import ValidityTables.Proofs.Words

/-! # The fields of a written header line

A header line whose dates hold neither a quote nor a line feed is split where it was put together,
whatever its tail looks like. A quoted field could go on past a quote, but it ends at the first one
after which the rest can be read, and that is the one that was written for it.
-/

namespace ValidityTables.Header

open Text

variable {α β γ : Type}

section Marks

/-- Notes at the places of a text say nothing of the places before them. -/
def Marks (f : List (Place α) → List (Place β)) : Prop :=
  ∀ front rest, ∃ marked, f (front ++ rest) = marked ++ f rest ∧
    marked.map (·.char) = front.map (·.char)

theorem Marks.comp {f : List (Place α) → List (Place β)} {g : List (Place β) → List (Place γ)}
    (hOuter : Marks g) (hInner : Marks f) : Marks fun text => g (f text) := by
  intro front rest
  obtain ⟨inner, hInner, hSame⟩ := hInner front rest
  obtain ⟨outer, hOuter, hChars⟩ := hOuter inner (f rest)
  exact ⟨outer, by simp only [hInner, hOuter], hChars.trans hSame⟩

/-- What is noted behind a place. -/
def noteBehind (atEnd : β) : List (Place β) → β
  | [] => atEnd
  | next :: _ => next.note

theorem foldr_collects {γ δ : Type} {step : γ → List γ × δ → List γ × δ}
    (h : ∀ c state, (step c state).1 = c :: state.1) (start : δ) (cs : List γ) :
    (cs.foldr step ([], start)).1 = cs := by
  induction cs with
  | nil => rfl
  | cons c rest ih => rw [List.foldr_cons, h, ih]

theorem noted_cons (atEnd : β) (note : Char → List (Place α) → β → β) (place : Place α)
    (rest : List (Place α)) : noted atEnd note (place :: rest) =
      ⟨place.char, note place.char rest (noteBehind atEnd (noted atEnd note rest))⟩ ::
        noted atEnd note rest :=
  congrArg (fun behind => (⟨place.char, note place.char behind
    (noteBehind atEnd (noted atEnd note rest))⟩ : Place β) :: noted atEnd note rest)
    (foldr_collects (fun _ _ => rfl) [] rest)

theorem noted_marks (atEnd : β) (note : Char → List (Place α) → β → β) :
    Marks (noted atEnd note) := by
  intro front rest
  induction front with
  | nil => exact ⟨[], rfl, rfl⟩
  | cons place front ih =>
    obtain ⟨marked, hMarked, hChars⟩ := ih
    rw [List.cons_append, noted_cons, hMarked]
    exact ⟨_ :: marked, rfl, by rw [List.map_cons, List.map_cons, hChars]⟩

theorem marks_id : Marks fun text : List (Place α) => text := fun front _ => ⟨front, rfl, rfl⟩

theorem noteLine_marks : Marks noteLine := noted_marks _ _

theorem noteField_marks (next : List (Place α) → Option β) : Marks (noteField next) :=
  noted_marks _ _

end Marks

section Readers

variable {gap word : List Char}

theorem skipBlanks?_gap {front rest : List (Place β)} (hGap : IsGap (front.map (·.char)))
    (hRest : ∀ place, rest.head? = some place → isBlank place.char = false) :
    skipBlanks? (front ++ rest) = some rest := by
  have hBlank : ∀ place ∈ front, isBlank place.char = true := fun place hMem =>
    hGap.blank _ (List.mem_map_of_mem hMem)
  cases front with
  | nil => exact absurd rfl hGap.nonempty
  | cons first front =>
    have hLater := fun place hMem => hBlank place (List.mem_cons_of_mem _ hMem)
    rw [List.cons_append, skipBlanks?, if_pos (hBlank first List.mem_cons_self),
      (takeWhile_append_stop hLater hRest).2]

theorem run?_word {p : Char → Bool} {front rest : List (Place β)} (hFront : front ≠ [])
    (hClass : ∀ c ∈ front.map (·.char), p c = true)
    (hRest : ∀ place, rest.head? = some place → p place.char = false) :
    run? p (front ++ rest) = some (front.map (·.char), rest) := by
  have hTaken : ∀ place ∈ front, p place.char = true := fun place hMem =>
    hClass _ (List.mem_map_of_mem hMem)
  obtain ⟨hTake, hDrop⟩ := takeWhile_append_stop hTaken hRest
  rw [run?, hTake, hDrop]
  cases front with
  | nil => exact absurd rfl hFront
  | cons place front => rfl

/-- The places of a text, with nothing noted. -/
def places (cs : List Char) : List (Place Unit) := cs.map fun c => ⟨c, ()⟩

theorem places_append (cs ds : List Char) : places (cs ++ ds) = places cs ++ places ds :=
  List.map_append

theorem places_chars (cs : List Char) : (places cs).map (·.char) = cs := by
  rw [places, List.map_map]
  exact List.map_id cs

variable {f : List (Place Unit) → List (Place β)}

theorem Marks.head (hMarks : Marks f) (c : Char) (cs : List Char) (place : Place β)
    (h : (f (places (c :: cs))).head? = some place) : place.char = c := by
  obtain ⟨marked, hSplit, hChars⟩ := hMarks [⟨c, ()⟩] (places cs)
  obtain ⟨first, rfl, hFirst⟩ := List.map_eq_singleton_iff.mp hChars
  rw [show places (c :: cs) = [⟨c, ()⟩] ++ places cs from rfl, hSplit] at h
  cases h
  exact hFirst

theorem Marks.skipBlanks? (hMarks : Marks f) (hGap : IsGap gap) {c : Char}
    (hBlank : isBlank c = false) (cs : List Char) :
    skipBlanks? (f (places (gap ++ c :: cs))) = some (f (places (c :: cs))) := by
  obtain ⟨marked, hSplit, hChars⟩ := hMarks (places gap) (places (c :: cs))
  rw [places_chars] at hChars
  rw [places_append, hSplit]
  refine skipBlanks?_gap (hChars ▸ hGap) fun place hHead => ?_
  rwa [hMarks.head c cs place hHead]

theorem Marks.openQuote? (hMarks : Marks f) (hGap : IsGap gap) (cs : List Char) :
    openQuote? (f (places (gap ++ '\'' :: cs))) = some (f (places cs)) := by
  obtain ⟨marked, hSplit, hChars⟩ := hMarks [⟨'\'', ()⟩] (places cs)
  obtain ⟨quote, rfl, hQuote⟩ := List.map_eq_singleton_iff.mp hChars
  rw [Header.openQuote?, hMarks.skipBlanks? hGap (by decide)]
  rw [show places ('\'' :: cs) = [⟨'\'', ()⟩] ++ places cs from rfl, hSplit]
  exact if_pos hQuote

theorem Marks.run? (hMarks : Marks f) {p : Char → Bool} (hWord : word ≠ [])
    (hClass : ∀ c ∈ word, p c = true) {c : Char} (hStop : p c = false) (cs : List Char) :
    run? p (f (places (word ++ c :: cs))) = some (word, f (places (c :: cs))) := by
  obtain ⟨marked, hSplit, hChars⟩ := hMarks (places word) (places (c :: cs))
  rw [places_chars] at hChars
  have hFront : marked ≠ [] := by
    rintro rfl
    exact hWord hChars.symm
  have hRun := run?_word hFront (p := p) (hChars ▸ hClass) fun place hHead => by
    rwa [hMarks.head c cs place hHead]
  rw [places_append, hSplit, hRun, hChars]

/-- What a date may be made of so that its end cannot be mistaken. -/
def IsDateText (cs : List Char) : Prop := ∀ c ∈ cs, c ≠ '\'' ∧ c ≠ '\n'

instance (cs : List Char) : Decidable (IsDateText cs) :=
  List.decidableBAll (fun c : Char => c ≠ '\'' ∧ c ≠ '\n') cs

theorem Marks.quotedField (hMarks : Marks f) {next : List (Place β) → Option γ}
    {field : List Char} (hField : IsDateText field) {cs : List Char} {result : γ}
    (hNext : next (f (places cs)) = some result) :
    firstNote? (noteField next (f (places (field ++ '\'' :: cs)))) = some (field, result) := by
  induction field with
  | nil =>
    obtain ⟨marked, hSplit, hChars⟩ := hMarks [⟨'\'', ()⟩] (places cs)
    obtain ⟨quote, rfl, hQuote⟩ := List.map_eq_singleton_iff.mp hChars
    rw [List.nil_append, show places ('\'' :: cs) = [⟨'\'', ()⟩] ++ places cs from rfl, hSplit,
      noteField, List.singleton_append, noted_cons]
    simp only [firstNote?, hQuote, if_true, hNext]
  | cons c field ih =>
    obtain ⟨hQuote, hFeed⟩ := hField c List.mem_cons_self
    have hRest := ih fun other hMem => hField other (List.mem_cons_of_mem _ hMem)
    obtain ⟨marked, hSplit, hChars⟩ := hMarks [⟨c, ()⟩] (places (field ++ '\'' :: cs))
    obtain ⟨place, rfl, rfl⟩ := List.map_eq_singleton_iff.mp hChars
    rw [List.cons_append, show places (place.char :: (field ++ '\'' :: cs)) =
      [⟨place.char, ()⟩] ++ places (field ++ '\'' :: cs) from rfl, hSplit]
    simp only [noteField, List.singleton_append, noted_cons, firstNote?, if_neg hQuote,
      if_neg hFeed]
    simp only [firstNote?, noteField] at hRest
    split at hRest
    · cases hRest
    · rename_i hList
      rw [hList]
      simp only [noteBehind, hRest, Option.map_some]

theorem noteLine_cons (place : Place Unit) (rest : List (Place Unit)) :
    noteLine (place :: rest) =
      ⟨place.char, if place.char = '\n' then none else
        (noteBehind (some []) (noteLine rest)).map (place.char :: ·)⟩ :: noteLine rest :=
  noted_cons (some []) (fun c _ later => if c = '\n' then none else later.map (c :: ·)) place rest

theorem noteLine_text {cs : List Char} (h : '\n' ∉ cs) (place : Place (Option (List Char)))
    (hHead : (noteLine (places cs)).head? = some place) : place.note = some cs := by
  induction cs generalizing place with
  | nil => cases hHead
  | cons c rest ih =>
    rw [List.mem_cons, not_or] at h
    rw [show places (c :: rest) = ⟨c, ()⟩ :: places rest from rfl, noteLine_cons] at hHead
    cases hHead
    simp only [if_neg (Ne.symm h.1)]
    cases rest with
    | nil => rfl
    | cons other more =>
      cases hRest : noteLine (places (other :: more)) with
      | nil =>
        rw [show places (other :: more) = ⟨other, ()⟩ :: places more from rfl, noteLine_cons]
          at hRest
        cases hRest
      | cons next later =>
        have hNext := ih h.2 next (by rw [hRest]; rfl)
        simp only [noteBehind, hNext, Option.map_some]

end Readers

section Front

/-- What comes before the options in a header line, with what is between its parts. -/
structure Front where
  table : List Char
  validFrom : List Char
  validTo : List Char
  aggregate : List Char
  created : List Char
  number : Nat
  afterMarker : List Char
  afterTable : List Char
  afterFrom : List Char
  afterTo : List Char
  afterAggregate : List Char
  named : table ≠ [] ∧ ∀ c ∈ table, isWord c = true
  dated : IsDateText validFrom ∧ IsDateText validTo ∧ IsDateText created
  numbered : IsNumeral aggregate number ∧ number < UInt64.size
  gaps : ∀ gap ∈ [afterMarker, afterTable, afterFrom, afterTo, afterAggregate], IsGap gap

variable (front : Front)

/-- The dates and the number, and what goes on after the last quote. -/
def Front.dates (suffix : List Char) : List Char :=
  '\'' :: (front.validFrom ++ '\'' :: (front.afterFrom ++ '\'' :: (front.validTo ++ '\'' ::
    (front.afterTo ++ (front.aggregate ++ (front.afterAggregate ++ '\'' ::
      (front.created ++ '\'' :: suffix)))))))

/-- The line that begins like this and goes on after the last quote. -/
def Front.text (suffix : List Char) : List Char :=
  marker ++ (front.afterMarker ++ (front.table ++ (front.afterTable ++ front.dates suffix)))

def Front.fields (tail : Option (List Char)) : Fields :=
  ⟨front.table, front.validFrom, front.validTo, front.aggregate, front.created, tail⟩

def Front.header (options : Options) : Header := ofFields (front.fields none) front.number options

/-- The line goes on with nothing, or with a gap and a tail. -/
inductive TailText : List Char → Option (List Char) → Prop
  | none : TailText [] none
  | some {gap rest : List Char} {c : Char} : IsGap gap → isBlank c = false → '\n' ∉ c :: rest →
      TailText (gap ++ c :: rest) (some (c :: rest))

theorem isWord_of_blank {c : Char} (h : isBlank c = true) : isWord c = false := by
  have hAll : ∀ n ∈ blankPoints, isWord (Char.ofNat n) = false := by decide +kernel
  have hPoint := hAll _ (mem_blankPoints h)
  rwa [Char.ofNat_toNat] at hPoint

theorem isBlank_of_class {p : Char → Bool} (hApart : ∀ c, isBlank c = true → p c = false)
    {c : Char} (h : p c = true) : isBlank c = false := by
  cases hBlank : isBlank c with
  | false => rfl
  | true => rw [hApart c hBlank] at h; cases h

theorem tail?_of_text {suffix : List Char} {tail : Option (List Char)}
    (h : TailText suffix tail) : tail? (noteLine (places suffix)) = some tail := by
  cases h with
  | none => rfl
  | @some gap rest c hGap hFirst hLine =>
    have hSkipped := noteLine_marks.skipBlanks? hGap hFirst rest
    have hNote := noteLine_text hLine
    cases hList : noteLine (places (gap ++ c :: rest)) with
    | nil =>
      rw [hList] at hSkipped
      cases hSkipped
    | cons place later =>
      rw [tail?, ← hList, hSkipped]
      · cases hTail : noteLine (places (c :: rest)) with
        | nil =>
          rw [show places (c :: rest) = ⟨c, ()⟩ :: places rest from rfl, noteLine_cons] at hTail
          cases hTail
        | cons first more =>
          rw [hTail] at hNote
          exact congrArg (Option.map some) (hNote first rfl)
      · simp

theorem isDigit_of_numeral {cs : List Char} {n : Nat} (h : IsNumeral cs n) :
    ∀ c ∈ cs, isDigit c = true := by
  intro c hMem
  have hAscii := h.digits c hMem
  rw [isDigit, if_pos, hAscii]
  rw [isAsciiDigit, Bool.and_eq_true, decide_eq_true_eq, decide_eq_true_eq] at hAscii
  omega

variable {f : List (Place Unit) → List (Place α)} {gap field : List Char} {result : γ}

/-- A run of a class that no blank is in, after a gap and in front of another one. -/
theorem Marks.spacedRun (hMarks : Marks f) {p : Char → Bool}
    (hApart : ∀ c, isBlank c = true → p c = false) {word after : List Char} (hGap : IsGap gap)
    (hWord : word ≠ []) (hClass : ∀ c ∈ word, p c = true) (hAfter : IsGap after)
    (cs : List Char) :
    ∃ opened, Header.skipBlanks? (f (places (gap ++ (word ++ (after ++ cs))))) = some opened ∧
      Header.run? p opened = some (word, f (places (after ++ cs))) := by
  obtain ⟨first, word, rfl⟩ := List.exists_cons_of_ne_nil hWord
  obtain ⟨stop, after, rfl⟩ := List.exists_cons_of_ne_nil hAfter.nonempty
  have hFirst := isBlank_of_class hApart (hClass first List.mem_cons_self)
  have hStop := hApart stop (hAfter.blank stop List.mem_cons_self)
  refine ⟨_, hMarks.skipBlanks? hGap hFirst _, ?_⟩
  exact hMarks.run? hWord hClass hStop (after ++ cs)

theorem Marks.readDate? (hMarks : Marks f) {next : List (Place α) → Option γ} (hGap : IsGap gap)
    (hField : IsDateText field) {cs : List Char} (hNext : next (f (places cs)) = some result) :
    Header.readDate? (noteField next (f (places (gap ++ '\'' :: (field ++ '\'' :: cs))))) =
      some (field, result) := by
  rw [Header.readDate?, ((noteField_marks next).comp hMarks).openQuote? hGap]
  exact hMarks.quotedField hField hNext

theorem Marks.readAggregate? (hMarks : Marks f) {next : List (Place α) → Option γ}
    {aggregate after : List Char} {n : Nat} (hGap : IsGap gap) (hNumber : IsNumeral aggregate n)
    (hAfter : IsGap after) (hField : IsDateText field) {cs : List Char}
    (hNext : next (f (places cs)) = some result) :
    Header.readAggregate? (noteField next (f (places
      (gap ++ (aggregate ++ (after ++ '\'' :: (field ++ '\'' :: cs))))))) =
      some (aggregate, field, result) := by
  have hNoted := (noteField_marks next).comp hMarks
  obtain ⟨opened, hOpened, hRun⟩ := hNoted.spacedRun
    (fun c hBlank => (caseless_of_blank hBlank).digit) hGap hNumber.nonempty
    (isDigit_of_numeral hNumber) hAfter ('\'' :: (field ++ '\'' :: cs))
  simp only [Header.readAggregate?, Option.bind_eq_bind, hOpened, Option.bind_some, hRun,
    hNoted.openQuote? hAfter, hMarks.quotedField hField hNext, Option.pure_def]

theorem read?_text {suffix : List Char} {tail : Option (List Char)} (h : TailText suffix tail) :
    Fields.read? (front.text suffix) = some (front.fields tail) := by
  obtain ⟨hFrom, hTo, hCreated⟩ := front.dated
  have hGaps := front.gaps
  simp only [List.forall_mem_cons, List.not_mem_nil, false_implies, implies_true, and_true] at hGaps
  obtain ⟨hAfterMarker, hAfterTable, hAfterFrom, hAfterTo, hAfterAggregate⟩ := hGaps
  have hInLast := (noteField_marks tail?).comp noteLine_marks
  have hInSecond := (noteField_marks readAggregate?).comp hInLast
  have hLast := noteLine_marks.readAggregate? hAfterTo front.numbered.1 hAfterAggregate hCreated
    (tail?_of_text h)
  have hSecond := hInLast.readDate? hAfterFrom hTo hLast
  have hFirst := hInSecond.readDate? hAfterTable hFrom hSecond
  obtain ⟨opened, hOpened, hRun⟩ := marks_id.spacedRun (fun c => isWord_of_blank) hAfterMarker
    front.named.1 front.named.2 hAfterTable (front.dates suffix)
  rw [places] at hOpened
  simp only [Fields.read?, Front.text, dropMarker?_append, Option.bind_eq_bind, Option.bind_some,
    hOpened, hRun]
  rw [Front.dates, hFirst]
  rfl

end Front

section Line

/-- A header line with the blanks that are in it. -/
structure Line where
  front : Front
  before : List Char
  gap : List Char
  tail : List Char
  after : List Char
  blanks : AllBlank before ∧ AllBlank gap ∧ AllBlank after
  apart : gap = [] → tail = []
  unbroken : '\n' ∉ tail

def Line.text (line : Line) : String :=
  String.ofList (line.before ++ line.front.text (line.gap ++ line.tail ++ line.after))

/-- What comes after the last quote without the blanks at the end of the line: the same words. -/
theorem Line.exists_tailText (line : Line) :
    ∃ written, TailText (trimEnd (line.gap ++ line.tail ++ line.after)) written ∧
      words (lowercase (written.getD [])) = words (lowercase line.tail) := by
  obtain ⟨-, hGap, hAfter⟩ := line.blanks
  obtain ⟨front, hFront, hSplit⟩ := exists_trimStart line.tail
  have hBefore : AllBlank (line.gap ++ front) := fun c hMem =>
    (List.mem_append.mp hMem).elim (hGap c) (hFront c)
  rw [trimEnd_append hAfter]
  cases hText : trimStart line.tail with
  | nil =>
    rw [hText, List.append_nil] at hSplit
    have hBlank : trimEnd ([] ++ (line.gap ++ front)) = [] := trimEnd_append hBefore
    have hWords := words_lowercase_surrounded hFront allBlank_nil []
    rw [List.append_nil, List.append_nil, ← hSplit] at hWords
    rw [← hSplit, List.nil_append] at hBlank
    refine ⟨none, ?_, hWords.symm⟩
    rw [hBlank]
    exact .none
  | cons c rest =>
    rw [hText] at hSplit
    have hFirst : isBlank c = false := by
      have hHead := List.head?_dropWhile_not isBlank line.tail
      rw [show line.tail.dropWhile isBlank = c :: rest from hText] at hHead
      simpa using hHead
    obtain ⟨last, hLast, hRest⟩ := exists_trimEnd rest
    have hWords := words_lowercase_surrounded hFront hLast (c :: trimEnd rest)
    rw [List.append_assoc, List.cons_append, ← hRest, ← hSplit] at hWords
    refine ⟨some (c :: trimEnd rest), ?_, hWords.symm⟩
    rw [hSplit, ← List.append_assoc, trimEnd_keeps hFirst]
    refine .some ⟨?_, hBefore⟩ hFirst ?_
    · intro hNil
      have hEmpty := line.apart (List.append_eq_nil_iff.mp hNil).1
      rw [hSplit] at hEmpty
      simp at hEmpty
    · intro hMem
      refine line.unbroken ?_
      rw [hSplit, hRest, List.mem_append, ← List.cons_append, List.mem_append]
      exact .inr (.inl hMem)

theorem Front.trim_text (front : Front) {before : List Char} (hBefore : AllBlank before)
    (suffix : List Char) :
    trim (before ++ front.text suffix) = front.text (trimEnd suffix) := by
  let opening := marker ++ front.afterMarker ++ front.table ++ front.afterTable ++
    '\'' :: front.validFrom ++ '\'' :: front.afterFrom ++ '\'' :: front.validTo ++
    '\'' :: front.afterTo ++ front.aggregate ++ front.afterAggregate ++ '\'' :: front.created
  have hLine (suffix : List Char) : front.text suffix = opening ++ '\'' :: suffix := by
    simp [Front.text, Front.dates, opening]
  have hStart : trimStart (front.text suffix) = front.text suffix :=
    trimStart_of_head fun c hHead => by
      cases hHead
      decide
  rw [trim, trimStart_append hBefore, hStart, hLine, hLine, trimEnd_keeps (by decide)]

end Line

end ValidityTables.Header
