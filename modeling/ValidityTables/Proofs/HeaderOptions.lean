import ValidityTables.Proofs.HeaderFields
import Mathlib.Data.List.Forall2

/-! # What the tail of a header line means

The words of a tail are read from left to right: a first word of digits is the task, every other
word is an option, and of two options with one key the later one holds. The first word that is
neither decides the fault.
-/

namespace ValidityTables

open Text

namespace Options

/-- What one option sets. -/
inductive Setting
  | task (n : Int64)
  | simMask (mask : SimMask)
  | epoch (e : UInt8)

def maskWord : SimMask → String
  | .data => "data"
  | .mc => "mc"
  | .all => "all"

def keys : List (List Char) := ["task".toList, "simmask".toList, "epoch".toList]

/-- A token is cut at its last equals sign, and neither side is empty. -/
structure SplitsAt (token key value : List Char) : Prop where
  text : token = key ++ '=' :: value
  last : '=' ∉ value
  key : key ≠ []
  value : value ≠ []

inductive Sets : List Char → List Char → Setting → Prop
  | task {value : List Char} {n : Int64} : IsInteger value n.toInt →
      Sets "task".toList value (.task n)
  | simMask (mask : SimMask) : Sets "simmask".toList (maskWord mask).toList (.simMask mask)
  | epoch {value : List Char} {e : UInt8} : IsInteger value e.toNat → e.toNat ≤ 100 →
      Sets "epoch".toList value (.epoch e)

def StandsFor (token : List Char) (setting : Setting) : Prop :=
  ∃ key value, SplitsAt token key value ∧ Sets key value setting

/-- The fault of a token that stands for no setting, in front of others. -/
inductive Faulty (token : List Char) (after : List (List Char)) : BlockError → Prop
  | unsplit : (∀ key value, ¬ SplitsAt token key value) →
      Faulty token after (.options (String.ofList ([' '].intercalate (token :: after))))
  | unknownKey {key value : List Char} : SplitsAt token key value → key ∉ keys →
      Faulty token after (.unknownKey (String.ofList key))
  | badValue {key value : List Char} : SplitsAt token key value → key ∈ keys →
      (∀ setting, ¬ Sets key value setting) →
      Faulty token after (.badValue (String.ofList key) (String.ofList value))

section Token

variable {token key value : List Char}

theorem splitAssignment?_of_splitsAt (h : SplitsAt token key value) :
    splitAssignment? token = some (key, value) := by
  obtain ⟨rfl, hLast, hKey, hValue⟩ := h
  have hReverse : (key ++ '=' :: value).reverse = value.reverse ++ '=' :: key.reverse := by simp
  have hFront : ∀ c ∈ value.reverse, (c != '=') = true := by
    intro c hMem
    rw [bne_iff_ne]
    rintro rfl
    exact hLast (List.mem_reverse.mp hMem)
  have hStop : ∀ c, ('=' :: key.reverse).head? = some c → (c != '=') = false := by simp
  obtain ⟨hTake, hDrop⟩ := takeWhile_append_stop hFront hStop
  simp only [splitAssignment?, hReverse, hTake, hDrop, List.reverse_reverse, List.drop_one,
    List.tail_cons]
  exact if_pos ⟨by simp, hKey, hValue⟩

theorem splitsAt_of_splitAssignment? (h : splitAssignment? token = some (key, value)) :
    SplitsAt token key value := by
  simp only [splitAssignment?] at h
  split at h
  · rename_i hParts
    obtain ⟨hMem, hKey, hValue⟩ := hParts
    cases h
    refine ⟨?_, ?_, hKey, hValue⟩
    · have hWhole := List.takeWhile_append_dropWhile (p := (· != '=')) (l := token.reverse)
      have hHead := List.head?_dropWhile_not (· != '=') token.reverse
      cases hDrop : token.reverse.dropWhile (· != '=') with
      | nil =>
        rw [hDrop, List.append_nil] at hWhole
        have hIn : '=' ∈ token.reverse.takeWhile (· != '=') := by
          rw [hWhole]
          exact List.mem_reverse.mpr hMem
        have hNot := List.mem_takeWhile_imp hIn
        simp at hNot
      | cons c rest =>
        rw [hDrop] at hHead hWhole
        obtain rfl : c = '=' := by simpa using hHead
        have hToken := congrArg List.reverse hWhole
        rw [List.reverse_reverse, List.reverse_append] at hToken
        exact hToken.symm.trans (by simp)
    · intro hIn
      have hNot := List.mem_takeWhile_imp (List.mem_reverse.mp hIn)
      simp at hNot
  · cases h

theorem splitAssignment?_eq_none (h : ∀ key value, ¬ SplitsAt token key value) :
    splitAssignment? token = none := by
  cases hSplit : splitAssignment? token with
  | none => rfl
  | some parts => exact absurd (splitsAt_of_splitAssignment? hSplit) (h parts.1 parts.2)

theorem task?_eq_some {n : Int64} : task? value = some n ↔ IsInteger value n.toInt := by
  unfold task?
  cases hRead : readInt 63 value with
  | error e =>
    simp only [reduceCtorEq, false_iff]
    intro hInteger
    rw [readInt_eq_ok.mpr ⟨hInteger, n.le_toInt, n.toInt_lt⟩] at hRead
    cases hRead
  | ok i =>
    obtain ⟨hInteger, hLow, hHigh⟩ := readInt_eq_ok.mp hRead
    simp only [Option.some.injEq]
    constructor
    · rintro rfl
      rwa [Int64.toInt_ofInt_of_le hLow hHigh]
    · intro hSame
      rw [hInteger.unique hSame, Int64.ofInt_toInt]

theorem epoch?_eq_some {e : UInt8} :
    epoch? value = some e ↔ IsInteger value e.toNat ∧ e.toNat ≤ 100 := by
  unfold epoch? maxEpoch
  cases hRead : readInt 63 value with
  | error fault =>
    simp only [reduceCtorEq, false_iff]
    rintro ⟨hInteger, hMax⟩
    rw [readInt_eq_ok.mpr ⟨hInteger, by omega, by omega⟩] at hRead
    cases hRead
  | ok i =>
    obtain ⟨hInteger, -, -⟩ := readInt_eq_ok.mp hRead
    simp only [Option.ite_none_right_eq_some, Option.some.injEq]
    constructor
    · rintro ⟨⟨hLow, hHigh⟩, rfl⟩
      have hValue : (UInt8.ofNat i.toNat).toNat = i.toNat := by
        rw [UInt8.toNat_ofNat']
        omega
      rw [hValue, Int.toNat_of_nonneg hLow]
      exact ⟨hInteger, by omega⟩
    · rintro ⟨hSame, hMax⟩
      obtain rfl := hInteger.unique hSame
      exact ⟨⟨by omega, by omega⟩, by rw [Int.toNat_natCast, UInt8.ofNat_toNat]⟩

theorem ofWord?_eq_some {mask : SimMask} :
    SimMask.ofWord? value = some mask ↔ value = (maskWord mask).toList := by
  constructor
  · intro h
    unfold SimMask.ofWord? at h
    split at h <;> cases h <;> rfl
  · rintro rfl
    cases mask <;> rfl

end Token

section Settings

variable {token key value : List Char} {setting : Setting}

def apply (options : Options) : Setting → Options
  | .task task => { options with task }
  | .simMask simMask => { options with simMask }
  | .epoch epoch => { options with epoch := some epoch }

theorem set_of_sets (h : Sets key value setting) (options : Options) :
    options.set key value = .ok (options.apply setting) := by
  cases h with
  | task hInteger =>
    rw [set, if_pos rfl, task?_eq_some.mpr hInteger]
    rfl
  | simMask mask =>
    rw [set, if_neg (by decide), if_pos rfl, ofWord?_eq_some.mpr rfl]
    rfl
  | epoch hInteger hMax =>
    rw [set, if_neg (by decide), if_neg (by decide), if_pos rfl,
      epoch?_eq_some.mpr ⟨hInteger, hMax⟩]
    rfl

theorem set_unknown (h : key ∉ keys) (options : Options) :
    options.set key value = .error (.unknownKey (String.ofList key)) := by
  simp only [keys, List.mem_cons, List.not_mem_nil, or_false, not_or] at h
  rw [set, if_neg h.1, if_neg h.2.1, if_neg h.2.2]

theorem valueOr_none {α : Type} {read : Option α} (h : ∀ a, read ≠ some a) :
    valueOr key value read = .error (.badValue (String.ofList key) (String.ofList value)) := by
  cases read with
  | none => rfl
  | some a => exact absurd rfl (h a)

theorem set_badValue (hKey : key ∈ keys) (h : ∀ setting, ¬ Sets key value setting)
    (options : Options) : options.set key value =
      .error (.badValue (String.ofList key) (String.ofList value)) := by
  simp only [keys, List.mem_cons, List.not_mem_nil, or_false] at hKey
  obtain rfl | rfl | rfl := hKey
  · rw [set, if_pos rfl, valueOr_none]
    · rfl
    · exact fun n hRead => h _ (.task (task?_eq_some.mp hRead))
  · rw [set, if_neg (by decide), if_pos rfl, valueOr_none]
    · rfl
    · intro mask hRead
      obtain rfl := ofWord?_eq_some.mp hRead
      exact h _ (.simMask mask)
  · rw [set, if_neg (by decide), if_neg (by decide), if_pos rfl, valueOr_none]
    · rfl
    · intro e hRead
      obtain ⟨hInteger, hMax⟩ := epoch?_eq_some.mp hRead
      exact h _ (.epoch hInteger hMax)

/-- What one token does: it sets something, or it ends the reading. -/
theorem setAll_standsFor (h : StandsFor token setting) (options : Options)
    (rest : List (List Char)) :
    options.setAll (token :: rest) = (options.apply setting).setAll rest := by
  obtain ⟨key, value, hSplit, hSets⟩ := h
  simp only [setAll, splitAssignment?_of_splitsAt hSplit, set_of_sets hSets]

theorem setAll_faulty {after : List (List Char)} {e : BlockError} (h : Faulty token after e)
    (options : Options) : options.setAll (token :: after) = .error e := by
  cases h with
  | unsplit hNone => simp only [setAll, splitAssignment?_eq_none hNone]
  | unknownKey hSplit hKey =>
    simp only [setAll, splitAssignment?_of_splitsAt hSplit, set_unknown hKey]
  | badValue hSplit hKey hNone =>
    simp only [setAll, splitAssignment?_of_splitsAt hSplit, set_badValue hKey hNone]

theorem standsFor_or_faulty (token : List Char) (after : List (List Char)) :
    (∃ setting, StandsFor token setting) ∨ ∃ e, Faulty token after e := by
  by_cases hSplit : ∃ key value, SplitsAt token key value
  · obtain ⟨key, value, hSplit⟩ := hSplit
    by_cases hKey : key ∈ keys
    · by_cases hSets : ∃ setting, Sets key value setting
      · obtain ⟨setting, hSets⟩ := hSets
        exact .inl ⟨setting, key, value, hSplit, hSets⟩
      · exact .inr ⟨_, .badValue hSplit hKey fun setting h => hSets ⟨setting, h⟩⟩
    · exact .inr ⟨_, .unknownKey hSplit hKey⟩
  · exact .inr ⟨_, .unsplit fun key value h => hSplit ⟨key, value, h⟩⟩

theorem setAll_append {good : List (List Char)} {settings : List Setting}
    (h : List.Forall₂ StandsFor good settings) (options : Options) (rest : List (List Char)) :
    options.setAll (good ++ rest) = (settings.foldl apply options).setAll rest := by
  induction h generalizing options with
  | nil => rfl
  | cons hFirst _ ih => rw [List.cons_append, setAll_standsFor hFirst, ih, List.foldl_cons]

end Settings

section Meaning

def Setting.task? : Setting → Option Int64
  | .task n => some n
  | _ => none

def Setting.simMask? : Setting → Option SimMask
  | .simMask mask => some mask
  | _ => none

def Setting.epoch? : Setting → Option UInt8
  | .epoch e => some e
  | _ => none

/-- The last setting of a kind holds; a task in front of all settings is replaced by any other. -/
def ofSettings (first : Option Int64) (settings : List Setting) : Options where
  task := (settings.filterMap Setting.task?).getLast?.getD (first.getD 0)
  simMask := (settings.filterMap Setting.simMask?).getLast?.getD .data
  epoch := (settings.filterMap Setting.epoch?).getLast?

theorem foldl_apply (settings : List Setting) (options : Options) :
    settings.foldl apply options =
      { task := (settings.filterMap Setting.task?).getLast?.getD options.task
        simMask := (settings.filterMap Setting.simMask?).getLast?.getD options.simMask
        epoch := (settings.filterMap Setting.epoch?).getLast? <|> options.epoch } := by
  induction settings generalizing options with
  | nil => rfl
  | cons setting rest ih =>
    rw [List.foldl_cons, ih]
    cases setting with
    | task n => simp [apply, List.filterMap_cons, Setting.task?, Setting.simMask?,
        Setting.epoch?, List.getLast?_cons]
    | simMask mask => simp [apply, List.filterMap_cons, Setting.task?, Setting.simMask?,
        Setting.epoch?, List.getLast?_cons]
    | epoch e =>
      cases hLast : (rest.filterMap Setting.epoch?).getLast? <;>
        simp [apply, List.filterMap_cons, Setting.task?, Setting.simMask?, Setting.epoch?,
          List.getLast?_cons, hLast]

theorem foldl_apply_first (first : Option Int64) (settings : List Setting) :
    settings.foldl apply { task := first.getD 0 } = ofSettings first settings := by
  rw [foldl_apply, ofSettings]
  simp

end Meaning

section Words

/-- The options given by the words of a tail in lower case. -/
def ofWords : List (List Char) → Except BlockError Options
  | [] => .ok {}
  | word :: rest =>
    if word.all isDigit then
      match valueOr "task".toList word (task? word) with
      | .error e => .error e
      | .ok task => setAll { task } rest
    else setAll {} (word :: rest)

theorem splitNumber?_digits {word rest tail : List Char} (hTail : trimStart tail = word ++ rest)
    (hWord : IsWordText word) (hRest : ∀ c, rest.head? = some c → isBlank c = true)
    (hDigits : word.all isDigit = true) :
    ∃ later, splitNumber? tail = some (word, later) ∧ words later = words rest := by
  have hStop : ∀ c, rest.head? = some c → isDigit c = false := fun c hHead =>
    (caseless_of_blank (hRest c hHead)).digit
  obtain ⟨hTake, hDrop⟩ := takeWhile_append_stop (List.all_eq_true.mp hDigits) hStop
  obtain ⟨first, more, rfl⟩ := List.exists_cons_of_ne_nil hWord.nonempty
  simp only [splitNumber?, hTail, hTake, hDrop]
  cases rest with
  | nil => exact ⟨[], rfl, rfl⟩
  | cons c later =>
    have hBlank := hRest c rfl
    exact ⟨later, if_pos hBlank, (words_cons_blank hBlank later).symm⟩

theorem splitNumber?_other {word rest tail : List Char} (hTail : trimStart tail = word ++ rest)
    (hWord : IsWordText word) (hOther : word.all isDigit = false) :
    splitNumber? tail = none := by
  have hSplit := List.takeWhile_append_dropWhile (p := isDigit) (l := word)
  have hInside : word.dropWhile isDigit ≠ [] := by
    intro hNil
    rw [hNil, List.append_nil] at hSplit
    have hAll : word.all isDigit = true := List.all_eq_true.mpr fun c hMem =>
      List.mem_takeWhile_imp (hSplit ▸ hMem)
    rw [hAll] at hOther
    cases hOther
  obtain ⟨c, more, hDropped⟩ := List.exists_cons_of_ne_nil hInside
  have hHead := List.head?_dropWhile_not isDigit word
  rw [hDropped] at hHead
  have hStop : ∀ other, (c :: more ++ rest).head? = some other → isDigit other = false := by
    intro other hSame
    cases hSame
    simpa using hHead
  have hFront : ∀ other ∈ word.takeWhile isDigit, isDigit other = true := fun _ hMem =>
    List.mem_takeWhile_imp hMem
  obtain ⟨hTake, hDrop⟩ := takeWhile_append_stop hFront hStop
  have hBlank : isBlank c = false := hWord.unbroken c (by
    rw [← hSplit, hDropped]
    simp)
  rw [hDropped] at hSplit
  rw [← List.append_assoc, hSplit] at hTake hDrop
  simp only [splitNumber?, hTail, hTake, hDrop]
  cases word.takeWhile isDigit with
  | nil => rfl
  | cons digit digits => simp [hBlank]

theorem read_eq_ofWords (cs : List Char) : read cs = ofWords (words cs) := by
  obtain ⟨hStart, hWords⟩ | ⟨word, rest, hWord, hStart, hRest, hWords⟩ := words_split cs
  · have hSplit : splitNumber? cs = none := by simp [splitNumber?, hStart]
    rw [read, hSplit, hWords]
    rfl
  · rw [hWords, ofWords, read]
    cases hDigits : word.all isDigit with
    | true =>
      obtain ⟨later, hSplit, hLater⟩ := splitNumber?_digits hStart hWord hRest hDigits
      cases hTask : valueOr "task".toList word (task? word) <;>
        simp only [hSplit, hLater, hTask, if_true]
    | false =>
      simp only [splitNumber?_other hStart hWord hDigits, hWords, Bool.false_eq_true, if_false]

end Words

section Outcome

/-- The task in front of the options, if there is one, and the words after it. -/
inductive Leads : List (List Char) → Option Int64 → List (List Char) → Prop
  | number {word : List Char} {rest : List (List Char)} {n : Int64} : word.all isDigit = true →
      IsInteger word n.toInt → Leads (word :: rest) (some n) rest
  | none {tokens : List (List Char)} :
      (∀ word, tokens.head? = some word → word.all isDigit = false) → Leads tokens none tokens

/-- The words of a tail have a first one that cannot be read. -/
inductive Fault : List (List Char) → BlockError → Prop
  | number {word : List Char} {rest : List (List Char)} : word.all isDigit = true →
      (∀ n : Int64, ¬ IsInteger word n.toInt) →
      Fault (word :: rest) (.badValue "task" (String.ofList word))
  | token {tokens good after : List (List Char)} {first : Option Int64} {token : List Char}
      {e : BlockError} : Leads tokens first (good ++ token :: after) →
      (∀ other ∈ good, ∃ setting, StandsFor other setting) → Faulty token after e → Fault tokens e

/-- All words of a tail can be read. -/
def Meaning (tokens : List (List Char)) (options : Options) : Prop :=
  ∃ first rest settings, Leads tokens first rest ∧ List.Forall₂ StandsFor rest settings ∧
    options = ofSettings first settings

variable {tokens rest : List (List Char)} {first : Option Int64} {options : Options}
  {e : BlockError}

theorem ofWords_of_leads (h : Leads tokens first rest) :
    ofWords tokens = setAll { task := first.getD 0 } rest := by
  cases h with
  | number hDigits hInteger =>
    rw [ofWords, if_pos hDigits, task?_eq_some.mpr hInteger]
    rfl
  | none hNone =>
    cases tokens with
    | nil => rfl
    | cons word rest =>
      rw [ofWords, if_neg (Bool.eq_false_iff.mp (hNone word rfl))]
      rfl

theorem exists_settings {tokens : List (List Char)} :
    (∃ settings, List.Forall₂ StandsFor tokens settings) ↔
      ∀ token ∈ tokens, ∃ setting, StandsFor token setting := by
  constructor
  · rintro ⟨settings, h⟩
    induction h with
    | nil => simp
    | cons hFirst _ ih => exact List.forall_mem_cons.mpr ⟨⟨_, hFirst⟩, ih⟩
  · intro h
    induction tokens with
    | nil => exact ⟨[], .nil⟩
    | cons token rest ih =>
      obtain ⟨⟨setting, hFirst⟩, hRest⟩ := List.forall_mem_cons.mp h
      obtain ⟨settings, hSettings⟩ := ih hRest
      exact ⟨setting :: settings, .cons hFirst hSettings⟩

theorem ofWords_of_meaning (h : Meaning tokens options) : ofWords tokens = .ok options := by
  obtain ⟨first, rest, settings, hLeads, hAll, rfl⟩ := h
  rw [ofWords_of_leads hLeads, ← List.append_nil rest, setAll_append hAll, foldl_apply_first]
  rfl

theorem ofWords_of_fault (h : Fault tokens e) : ofWords tokens = .error e := by
  cases h with
  | number hDigits hNone =>
    rw [ofWords, if_pos hDigits, valueOr_none fun n hRead => hNone n (task?_eq_some.mp hRead)]
    rfl
  | token hLeads hGood hFaulty =>
    obtain ⟨settings, hAll⟩ := exists_settings.mpr hGood
    rw [ofWords_of_leads hLeads, setAll_append hAll, setAll_faulty hFaulty]

theorem all_or_faulty (tokens : List (List Char)) :
    (∀ token ∈ tokens, ∃ setting, StandsFor token setting) ∨
      ∃ good token after e, tokens = good ++ token :: after ∧
        (∀ other ∈ good, ∃ setting, StandsFor other setting) ∧ Faulty token after e := by
  induction tokens with
  | nil => exact .inl (by simp)
  | cons token rest ih =>
    obtain hFirst | ⟨e, hFaulty⟩ := standsFor_or_faulty token rest
    · obtain hAll | ⟨good, other, after, e, rfl, hGood, hFaulty⟩ := ih
      · exact .inl (List.forall_mem_cons.mpr ⟨hFirst, hAll⟩)
      · exact .inr ⟨token :: good, other, after, e, rfl,
          List.forall_mem_cons.mpr ⟨hFirst, hGood⟩, hFaulty⟩
    · exact .inr ⟨[], token, rest, e, rfl, by simp, hFaulty⟩

theorem leads_or_fault (tokens : List (List Char)) :
    (∃ first rest, Leads tokens first rest) ∨ ∃ e, Fault tokens e := by
  cases tokens with
  | nil => exact .inl ⟨none, [], .none (by simp)⟩
  | cons word rest =>
    cases hDigits : word.all isDigit with
    | true =>
      by_cases hInteger : ∃ n : Int64, IsInteger word n.toInt
      · obtain ⟨n, hInteger⟩ := hInteger
        exact .inl ⟨some n, rest, .number hDigits hInteger⟩
      · exact .inr ⟨_, .number hDigits fun n h => hInteger ⟨n, h⟩⟩
    | false =>
      refine .inl ⟨none, word :: rest, .none fun other hHead => ?_⟩
      cases hHead
      exact hDigits

theorem meaning_or_fault (tokens : List (List Char)) :
    (∃ options, Meaning tokens options) ∨ ∃ e, Fault tokens e := by
  obtain ⟨first, rest, hLeads⟩ | hFault := leads_or_fault tokens
  · obtain hAll | ⟨good, token, after, e, rfl, hGood, hFaulty⟩ := all_or_faulty rest
    · obtain ⟨settings, hSettings⟩ := exists_settings.mpr hAll
      exact .inl ⟨_, first, rest, settings, hLeads, hSettings, rfl⟩
    · exact .inr ⟨e, .token hLeads hGood hFaulty⟩
  · exact .inr hFault

theorem ofWords_eq_ok : ofWords tokens = .ok options ↔ Meaning tokens options := by
  refine ⟨fun h => ?_, ofWords_of_meaning⟩
  obtain ⟨other, hMeaning⟩ | ⟨e, hFault⟩ := meaning_or_fault tokens
  · rw [ofWords_of_meaning hMeaning] at h
    cases h
    exact hMeaning
  · rw [ofWords_of_fault hFault] at h
    cases h

theorem ofWords_eq_error : ofWords tokens = .error e ↔ Fault tokens e := by
  refine ⟨fun h => ?_, ofWords_of_fault⟩
  obtain ⟨other, hMeaning⟩ | ⟨other, hFault⟩ := meaning_or_fault tokens
  · rw [ofWords_of_meaning hMeaning] at h
    cases h
  · rw [ofWords_of_fault hFault] at h
    cases h
    exact hFault

end Outcome

end Options

namespace Header

theorem readTail_eq_ofWords (tail : Option (List Char)) :
    readTail tail = Options.ofWords (words (lowercase (tail.getD []))) := by
  cases tail with
  | none => rfl
  | some tail => exact Options.read_eq_ofWords (lowercase tail)

/-- A header line gives the fields that were written and the options of its tail. -/
theorem parse_text (line : Line) : parse line.text =
    (Options.ofWords (words (lowercase line.tail))).map line.front.header := by
  obtain ⟨written, hWritten, hWords⟩ := line.exists_tailText
  have hNumber : readNat (UInt64.size - 1) line.front.aggregate = .ok line.front.number :=
    readNat_numeral line.front.numbered.1 (by have h := line.front.numbered.2; omega)
  have hFields := read?_text line.front hWritten
  simp only [parse, Line.text, String.toList_ofList, line.front.trim_text line.blanks.1, hFields]
  rw [Front.fields, hNumber]
  simp only [readTail_eq_ofWords, hWords]
  cases Options.ofWords (words (lowercase line.tail)) with
  | error e => rfl
  | ok options => rfl

/-- A header line is read if and only if all words of its tail can be, and then each option is that
of the last word that sets it. Otherwise the first word that cannot be read is reported. -/
theorem parse_options (line : Line) :
    ((∃ header, parse line.text = .ok header) ↔ ∃ first rest,
      Options.Leads (words (lowercase line.tail)) first rest ∧
      ∀ token ∈ rest, ∃ setting, Options.StandsFor token setting) ∧
    (∀ header, parse line.text = .ok header ↔ ∃ options,
      Options.Meaning (words (lowercase line.tail)) options ∧
      header = line.front.header options) ∧
    ∀ e, parse line.text = .error e ↔ Options.Fault (words (lowercase line.tail)) e := by
  have hOk (header : Header) : parse line.text = .ok header ↔ ∃ options,
      Options.Meaning (words (lowercase line.tail)) options ∧
      header = line.front.header options := by
    rw [parse_text]
    constructor
    · intro h
      cases hRead : Options.ofWords (words (lowercase line.tail)) with
      | error e =>
        rw [hRead] at h
        cases h
      | ok options =>
        rw [hRead] at h
        cases h
        exact ⟨options, Options.ofWords_eq_ok.mp hRead, rfl⟩
    · rintro ⟨options, hMeaning, rfl⟩
      rw [Options.ofWords_of_meaning hMeaning]
      rfl
  refine ⟨?_, hOk, fun e => ?_⟩
  · constructor
    · rintro ⟨header, h⟩
      obtain ⟨-, ⟨first, rest, settings, hLeads, hAll, -⟩, -⟩ := (hOk header).mp h
      exact ⟨first, rest, hLeads, Options.exists_settings.mp ⟨settings, hAll⟩⟩
    · rintro ⟨first, rest, hLeads, hAll⟩
      obtain ⟨settings, hSettings⟩ := Options.exists_settings.mpr hAll
      exact ⟨_, (hOk _).mpr ⟨_, ⟨first, rest, settings, hLeads, hSettings, rfl⟩, rfl⟩⟩
  · rw [parse_text, ← Options.ofWords_eq_error]
    cases Options.ofWords (words (lowercase line.tail)) with
    | error other => simp [Except.map]
    | ok options => simp [Except.map]

end Header

end ValidityTables
