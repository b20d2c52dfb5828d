import ValidityTables.Proofs.HeaderOptions
import Mathlib.Data.List.Perm.Basic

/-! # Headers written and read

A header can be written in many ways: with any blanks between its parts, with its options in any
order and any letter case, and with options left out that have their default. Every one of them is
read as the header that was written.
-/

namespace ValidityTables

open Text

namespace Options

/-- The task as a number in front of the options, as an option, or left out. -/
inductive TaskWords (n : Int64) : List (List Char) → List (List Char) → Prop
  | omitted : n = 0 → TaskWords n [] []
  | bare : 0 ≤ n.toInt → TaskWords n [(toString n).toList] []
  | assigned : TaskWords n [] [("task=" ++ toString n).toList]

inductive MaskWords (mask : SimMask) : List (List Char) → Prop
  | omitted : mask = .data → MaskWords mask []
  | assigned : MaskWords mask [("simmask=" ++ maskWord mask).toList]

def epochWords : Option UInt8 → List (List Char)
  | none => []
  | some e => [("epoch=" ++ toString e).toList]

theorem Sets.standsFor {key value : List Char} {setting : Setting} (h : Sets key value setting) :
    StandsFor (key ++ '=' :: value) setting := by
  have hInteger {i : Int} (h : IsInteger value i) : value ≠ [] ∧ '=' ∉ value := by
    refine ⟨h.chars.1, fun hMem => ?_⟩
    obtain hDigit | hSign | hSign := h.chars.2 '=' hMem
    · cases hDigit
    · cases hSign
    · cases hSign
  refine ⟨key, value, ?_, h⟩
  cases h with
  | task h => exact ⟨rfl, (hInteger h).2, by decide, (hInteger h).1⟩
  | simMask mask => cases mask <;> exact ⟨rfl, by decide, by decide, by decide⟩
  | epoch h _ => exact ⟨rfl, (hInteger h).2, by decide, (hInteger h).1⟩

theorem standsFor_task (n : Int64) : StandsFor ("task=" ++ toString n).toList (.task n) := by
  rw [String.toList_append]
  exact Sets.standsFor (.task (isInteger_toString n.toInt))

theorem standsFor_mask (mask : SimMask) :
    StandsFor ("simmask=" ++ maskWord mask).toList (.simMask mask) := by
  rw [String.toList_append]
  exact Sets.standsFor (.simMask mask)

theorem standsFor_epoch {e : UInt8} (h : e.toNat ≤ 100) :
    StandsFor ("epoch=" ++ toString e).toList (.epoch e) := by
  rw [String.toList_append]
  exact Sets.standsFor (.epoch (.plain (isNumeral_repr e.toNat)) h)

/-- Words that stand for settings are not taken for a task in front of them. -/
theorem not_digits_of_standsFor {word : List Char} {setting : Setting}
    (h : StandsFor word setting) : word.all isDigit = false := by
  obtain ⟨key, value, hSplit, -⟩ := h
  rw [hSplit.text, List.all_append, List.all_cons]
  simp [show isDigit '=' = false by decide]

theorem leads_none {pairs : List (List Char)} {settings : List Setting}
    (h : List.Forall₂ StandsFor pairs settings) : Leads pairs none pairs := by
  refine .none fun word hHead => ?_
  cases h with
  | nil => cases hHead
  | cons hFirst _ =>
    cases hHead
    exact not_digits_of_standsFor hFirst

theorem TaskWords.settings {n : Int64} {first pairs : List (List Char)}
    (h : TaskWords n first pairs) : ∃ (lead : Option Int64) (tasks : List Int64),
      tasks.length ≤ 1 ∧ tasks.getLast?.getD (lead.getD 0) = n ∧
      List.Forall₂ StandsFor pairs (tasks.map .task) ∧
      ∀ {rest : List (List Char)} {settings : List Setting},
        List.Forall₂ StandsFor rest settings → Leads (first ++ rest) lead rest := by
  cases h with
  | omitted hZero => exact ⟨none, [], by simp, hZero.symm, .nil, leads_none⟩
  | bare hSign =>
    refine ⟨some n, [], by simp, rfl, .nil, fun _ => .number ?_ (isInteger_toString n.toInt)⟩
    exact List.all_eq_true.mpr (Header.isDigit_of_numeral (isNumeral_toString hSign))
  | assigned => exact ⟨none, [n], by simp, rfl, .cons (standsFor_task n) .nil, leads_none⟩

theorem MaskWords.settings {mask : SimMask} {pairs : List (List Char)} (h : MaskWords mask pairs) :
    ∃ masks : List SimMask, masks.length ≤ 1 ∧ masks.getLast?.getD .data = mask ∧
      List.Forall₂ StandsFor pairs (masks.map .simMask) := by
  cases h with
  | omitted hData => exact ⟨[], by simp, hData.symm, .nil⟩
  | assigned => exact ⟨[mask], by simp, rfl, .cons (standsFor_mask mask) .nil⟩

theorem epochWords_settings {epoch : Option UInt8} (h : ∀ e, epoch = some e → e.toNat ≤ 100) :
    List.Forall₂ StandsFor (epochWords epoch) (epoch.toList.map .epoch) := by
  cases epoch with
  | none => exact .nil
  | some e => exact .cons (standsFor_epoch (h e rfl)) .nil

theorem eq_of_perm_short {α : Type} {l m : List α} (h : l.Perm m) (hShort : m.length ≤ 1) :
    l = m := by
  match m with
  | [] => exact List.perm_nil.mp h
  | [a] => exact List.perm_singleton.mp h
  | _ :: _ :: _ => simp at hShort

/-- In which order settings of different kinds are given does not matter. -/
theorem ofSettings_perm {lead : Option Int64} {settings : List Setting} {tasks : List Int64}
    {masks : List SimMask} {epoch : Option UInt8}
    (h : settings.Perm (tasks.map .task ++ masks.map .simMask ++ epoch.toList.map .epoch))
    (hTasks : tasks.length ≤ 1) (hMasks : masks.length ≤ 1) :
    ofSettings lead settings = ⟨tasks.getLast?.getD (lead.getD 0), masks.getLast?.getD .data,
      epoch⟩ := by
  have hTask := eq_of_perm_short (h.filterMap Setting.task?)
    (by simpa [List.filterMap_append, List.filterMap_map, Function.comp_def, Setting.task?])
  have hMask := eq_of_perm_short (h.filterMap Setting.simMask?)
    (by simpa [List.filterMap_append, List.filterMap_map, Function.comp_def, Setting.simMask?])
  have hEpoch := eq_of_perm_short (h.filterMap Setting.epoch?) (by
    cases epoch <;>
      simp [List.filterMap_append, List.filterMap_map, Function.comp_def, Setting.epoch?])
  rw [ofSettings, hTask, hMask, hEpoch]
  cases epoch <;> simp [List.filterMap_append, List.filterMap_map, Function.comp_def,
    Setting.task?, Setting.simMask?, Setting.epoch?]

/-- The words of the options of a header: the task may come first as a number, the others come in
any order. -/
def IsWritten (options : Options) (written : List (List Char)) : Prop :=
  ∃ first task mask pairs, TaskWords options.task first task ∧ MaskWords options.simMask mask ∧
    pairs.Perm (task ++ mask ++ epochWords options.epoch) ∧ written = first ++ pairs

theorem IsWritten.meaning {options : Options} {written : List (List Char)}
    (h : IsWritten options written) (hEpoch : ∀ e, options.epoch = some e → e.toNat ≤ 100) :
    Meaning written options := by
  obtain ⟨first, task, mask, pairs, hTask, hMask, hPerm, rfl⟩ := h
  obtain ⟨lead, tasks, hShort, hValue, hTaskAll, hLeads⟩ := hTask.settings
  obtain ⟨masks, hMaskShort, hMaskValue, hMaskAll⟩ := hMask.settings
  have hAll := List.rel_append (List.rel_append hTaskAll hMaskAll) (epochWords_settings hEpoch)
  obtain ⟨settings, hSettings, hOrder⟩ := List.perm_comp_forall₂ hPerm hAll
  refine ⟨lead, pairs, settings, hLeads hSettings, hSettings, ?_⟩
  rw [ofSettings_perm hOrder hShort hMaskShort, hValue, hMaskValue]

theorem isAscii_of_integer {cs : List Char} {i : Int} (h : IsInteger cs i) : IsAscii cs := by
  intro c hMem
  obtain hDigit | rfl | rfl := h.chars.2 c hMem
  · rw [isAsciiDigit, Bool.and_eq_true, decide_eq_true_eq, decide_eq_true_eq] at hDigit
    omega
  · decide
  · decide

theorem StandsFor.isAscii {word : List Char} {setting : Setting} (h : StandsFor word setting) :
    IsAscii word := by
  obtain ⟨key, value, ⟨rfl, -, -, -⟩, hSets⟩ := h
  have hBoth : IsAscii key ∧ IsAscii value := by
    cases hSets with
    | task h => exact ⟨by decide, isAscii_of_integer h⟩
    | simMask mask => cases mask <;> exact ⟨by decide, by decide⟩
    | epoch h _ => exact ⟨by decide, isAscii_of_integer h⟩
  intro c hMem
  obtain hKey | hRest := List.mem_append.mp hMem
  · exact hBoth.1 c hKey
  · obtain rfl | hValue := List.mem_cons.mp hRest
    · decide
    · exact hBoth.2 c hValue

theorem Meaning.isAscii {words : List (List Char)} {options : Options} (h : Meaning words options) :
    ∀ word ∈ words, IsAscii word := by
  obtain ⟨first, rest, settings, hLeads, hAll, -⟩ := h
  have hRest : ∀ word ∈ rest, IsAscii word := fun word hMem =>
    (exists_settings.mp ⟨settings, hAll⟩ word hMem).elim fun _ hStands => hStands.isAscii
  cases hLeads with
  | number _ hInteger => exact List.forall_mem_cons.mpr ⟨isAscii_of_integer hInteger, hRest⟩
  | none => exact hRest

end Options

namespace Header

/-- A header that a line can be written for. -/
structure Writable (header : Header) : Prop where
  named : header.table.toList ≠ [] ∧ IsName header.table
  dated : IsDateText header.validFrom.toList ∧ IsDateText header.validTo.toList ∧
    IsDateText header.created.toList
  epoch : ∀ e, header.epoch = some e → e.toNat ≤ 100

def options (header : Header) : Options := ⟨header.task, header.simMask, header.epoch⟩

/-- How a header is written. -/
structure Layout (header : Header) where
  before : List Char
  afterMarker : List Char
  afterTable : List Char
  afterFrom : List Char
  afterTo : List Char
  afterAggregate : List Char
  words : List (List Char)
  tail : List Char
  after : List Char
  blanks : AllBlank before ∧ AllBlank after
  gaps : ∀ gap ∈ [afterMarker, afterTable, afterFrom, afterTo, afterAggregate], IsGap gap
  written : header.options.IsWritten (words.map (·.map Char.toLower))
  spaced : Spaced words tail
  unbroken : '\n' ∉ tail

variable {header : Header}

def Layout.text (layout : Layout header) : String :=
  String.ofList layout.before ++ "BEGIN_TABLE" ++ String.ofList layout.afterMarker ++
    header.table ++ String.ofList layout.afterTable ++ "'" ++ header.validFrom ++ "'" ++
    String.ofList layout.afterFrom ++ "'" ++ header.validTo ++ "'" ++
    String.ofList layout.afterTo ++ toString header.aggregate ++
    String.ofList layout.afterAggregate ++ "'" ++ header.created ++ "'" ++
    String.ofList layout.tail ++ String.ofList layout.after

def Layout.front (layout : Layout header) (h : header.Writable) : Front where
  table := header.table.toList
  validFrom := header.validFrom.toList
  validTo := header.validTo.toList
  aggregate := (toString header.aggregate).toList
  created := header.created.toList
  number := header.aggregate.toNat
  afterMarker := layout.afterMarker
  afterTable := layout.afterTable
  afterFrom := layout.afterFrom
  afterTo := layout.afterTo
  afterAggregate := layout.afterAggregate
  named := h.named
  dated := h.dated
  numbered := ⟨isNumeral_repr header.aggregate.toNat, header.aggregate.toNat_lt⟩
  gaps := layout.gaps

theorem Layout.front_header (layout : Layout header) (h : header.Writable) :
    (layout.front h).header header.options = header := by
  simp [Front.header, Front.fields, ofFields, Layout.front, options]

/-- The line that a layout makes, with the blanks after the last quote set apart. -/
def Layout.line (layout : Layout header) (h : header.Writable) : Line where
  front := layout.front h
  before := layout.before
  gap := layout.tail.takeWhile isBlank
  tail := layout.tail.dropWhile isBlank
  after := layout.after
  blanks := ⟨layout.blanks.1, fun _ hMem => List.mem_takeWhile_imp hMem, layout.blanks.2⟩
  apart hNone := by
    obtain hNil | ⟨c, rest, hCons, hBlank⟩ := layout.spaced.gap
    · rw [hNil]
      rfl
    · rw [hCons, List.takeWhile_cons_of_pos hBlank] at hNone
      cases hNone
  unbroken hMem := layout.unbroken ((List.dropWhile_sublist isBlank).subset hMem)

theorem Layout.line_text (layout : Layout header) (h : header.Writable) :
    (layout.line h).text = layout.text := by
  have hQuote : ("'" : String).toList = ['\''] := by decide
  have hTail : (layout.line h).gap ++ (layout.line h).tail = layout.tail :=
    List.takeWhile_append_dropWhile
  apply String.toList_inj.mp
  rw [Line.text, String.toList_ofList, hTail, Front.text, Front.dates]
  unfold Layout.text
  simp only [String.toList_append, String.toList_ofList, hQuote, List.append_assoc,
    List.cons_append, List.nil_append]
  simp only [Layout.line, Layout.front]
  rfl

theorem Layout.words_line (layout : Layout header) (h : header.Writable) :
    Text.words (lowercase (layout.line h).tail) = layout.words.map (·.map Char.toLower) := by
  have hAscii : ∀ word ∈ layout.words, IsAscii word := by
    intro word hWord c hMem
    have hLower := (layout.written.meaning h.epoch).isAscii _ (List.mem_map_of_mem hWord)
    exact toNat_lt_of_toLower (hLower _ (List.mem_map_of_mem hMem))
  have hSplit : (layout.line h).gap ++ (layout.line h).tail = layout.tail :=
    List.takeWhile_append_dropWhile
  have hSame := words_lowercase_surrounded (layout.line h).blanks.2.1 allBlank_nil
    (layout.line h).tail
  rw [← hSame, List.append_nil, hSplit, layout.spaced.words_lowercase hAscii]

/-- A header is read back from every line that it is written as. -/
theorem parse_layout (h : header.Writable) (layout : Layout header) :
    parse layout.text = .ok header := by
  have hOptions :
      Options.ofWords (words (lowercase (layout.line h).tail)) = .ok header.options := by
    rw [layout.words_line h]
    exact Options.ofWords_of_meaning (layout.written.meaning h.epoch)
  rw [← layout.line_text h, parse_text, hOptions]
  exact congrArg Except.ok (layout.front_header h)

theorem parse_layout_sample : ∃ (header : Header) (layout : Layout header), header.Writable ∧
    layout.text = "\n BEGIN_TABLE  DEMO '' '?'\t7 '=' Epoch=3 TASK=-5  SIMmask=mC\n" ∧
    parse layout.text = .ok header := by
  have hWritable : Writable ⟨"DEMO", "", "?", 7, "=", -5, .mc, some 3⟩ :=
    ⟨⟨by decide, List.all_eq_true.mp (by decide)⟩, by decide, by rintro e ⟨⟩; decide⟩
  exact ⟨_, {
    before := "\n ".toList
    afterMarker := "  ".toList
    afterTable := " ".toList
    afterFrom := " ".toList
    afterTo := "\t".toList
    afterAggregate := " ".toList
    words := ["Epoch=3".toList, "TASK=-5".toList, "SIMmask=mC".toList]
    tail := " Epoch=3 TASK=-5  SIMmask=mC".toList
    after := "\n".toList
    blanks := by decide
    gaps := by decide
    written := ⟨[], _, _, ["epoch=3".toList, "task=-5".toList, "simmask=mc".toList], .assigned,
      .assigned, by decide, by decide⟩
    spaced := .cons (by decide : IsGap [' ']) (by decide) (.cons (by decide : IsGap [' '])
      (by decide) (.cons (by decide : IsGap [' ', ' ']) (by decide) .nil))
    unbroken := by decide }, hWritable, by decide, parse_layout hWritable _⟩

end Header

end ValidityTables
