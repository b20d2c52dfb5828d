import ValidityTables.Proofs.FileVerdict
import ValidityTables.Proofs.ItemPlaces
import ValidityTables.Proofs.LineEnds
import ValidityTables.Proofs.LineTexts

/-! # The layout of a file

Blank lines and comments between the lines of a file, and blanks at the ends of its lines, change
nothing in what an update does with it, as long as no line is put into a raw statement. Only an
error that names a line of the file names it by its new number.
-/

namespace ValidityTables.UpdateFile

open Text

variable {σ α β : Type}

/-- Lines from line `k` on, with lines inserted before each of them and behind the last one, and
each of them extended. -/
def relay (inserted : Nat → List α) (extend : Nat → α → α) (k : Nat) : List α → List α
  | [] => inserted k
  | line :: rest => inserted k ++ extend k line :: relay inserted extend (k + 1) rest

/-- What is inserted before the line that so many lines precede, and appended to it. -/
structure Layout where
  inserted : Nat → List String
  padding : Nat → String

namespace Layout

/-- The number of a line after all lines inserted before it. -/
def place (layout : Layout) (n : Nat) : Nat :=
  n + ((List.range n).flatMap layout.inserted).length

/-- Only blank lines and comments are inserted, none of them after the first line of a raw statement
and before its last one, and only blanks are appended. -/
structure Suits (layout : Layout) (lines : List SourceLine) : Prop where
  skipped : ∀ k, ∀ line ∈ layout.inserted k, IsSkipped line
  blank : ∀ k, AllBlank (layout.padding k).toList
  outside : ∀ k, layout.inserted k ≠ [] → unfinished? (roles (lines.take k)) = none

/-- The second file has the lines of the first one in this layout. No line has a line feed in it, so
none is inserted or appended. -/
def Relays (layout : Layout) (first second : List UInt8) : Prop :=
  rawLines second = relay (fun k => (layout.inserted k).map Utf8.encode)
    (fun k line => line ++ Utf8.encode (layout.padding k)) 0 (rawLines first)

/-- The lines of a file without the blanks that a layout appends. -/
def woven (layout : Layout) (k : Nat) (lines : List SourceLine) : List SourceLine :=
  relay (fun k => (layout.inserted k).map .ok) (fun _ line => line) k lines

end Layout

/-- The lines of an input that breaks off with a fault, or ends without one. -/
def linesUpTo (bytes : List UInt8) (fault : Option IoFault) : List SourceLine :=
  ofBytes bytes ++ (fault.map Except.error).toList

section Lines

theorem map_relay {f : α → β} {inserted : Nat → List α} {extend : Nat → α → α}
    (following : Nat → β → β) (h : ∀ k a, f (extend k a) = following k (f a)) (k : Nat)
    (lines : List α) :
    (relay inserted extend k lines).map f =
      relay (fun k => (inserted k).map f) following k (lines.map f) := by
  induction lines generalizing k with
  | nil => rfl
  | cons line rest ih =>
    rw [relay, List.map_append, List.map_cons, ih, h]
    rfl

theorem readLine_encode (line : String) : readLine (Utf8.encode line) = .ok line := by
  have hDecoded : Utf8.decode? (Utf8.encode line) = some line.toList :=
    Utf8.decode?_eq_some.mpr (Utf8.encode_eq line).symm
  rw [readLine, hDecoded]
  exact congrArg Except.ok String.ofList_toList

theorem Layout.Relays.trimmed_eq {layout : Layout} {first second : List UInt8}
    (h : layout.Relays first second) (hBlank : ∀ k, AllBlank (layout.padding k).toList) :
    (ofBytes second).map trimmed = (layout.woven 0 (ofBytes first)).map trimmed := by
  have hInserted (k : Nat) : ((layout.inserted k).map Utf8.encode).map (trimmed ∘ readLine) =
      ((layout.inserted k).map .ok).map trimmed := by
    rw [List.map_map, List.map_map]
    refine List.map_congr_left fun line _ => ?_
    simp only [Function.comp_apply, readLine_encode]
  rw [ofBytes_trimmed, h, Layout.woven,
    map_relay (fun _ line => line) (fun k line => trimmed_readLine_append line (hBlank k)),
    map_relay (fun _ line => line) (fun _ _ => rfl), ← ofBytes_trimmed]
  simp only [hInserted]

end Lines

section Items

theorem itemsFrom_skipped {lines : List String} (h : ∀ line ∈ lines, IsSkipped line) (n : Nat)
    (rest : List SourceLine) :
    itemsFrom n none (lines.map .ok ++ rest) = itemsFrom (n + lines.length) none rest := by
  induction lines generalizing n with
  | nil => rfl
  | cons line lines ih =>
    have hLater := ih (fun other hMem => h other (List.mem_cons_of_mem _ hMem)) (n + 1)
    have hFirst := ofLine_skipped_iff.mpr (h line List.mem_cons_self)
    rw [List.map_cons, List.cons_append, itemsFrom, hFirst]
    simp only [hLater, List.length_cons]
    congr 1
    omega

/-- The raw statement that is open after lines with these roles. -/
def Tracks (before : List LineRole) (statement : Option OpenStatement) : Prop :=
  statement.map (fun statement => (statement.lineNumber, statement.text)) = unfinished? before

theorem Tracks.settle {before : List LineRole} {statement : OpenStatement}
    (h : statement.isComplete = terminated statement.text) :
    Tracks (before ++ [.statement statement.lineNumber statement.text]) statement.settle.2 := by
  simp only [Tracks, unfinished?_push, OpenStatement.settle, h]
  cases terminated statement.text <;> rfl

theorem Tracks.scan {before : List LineRole} {statement : Option OpenStatement}
    (h : Tracks before statement) (line : String) :
    Tracks (before ++ [roleAfter before (.ok line)])
      (scan (before.length + 1) statement line).2 := by
  unfold Tracks at h
  cases statement with
  | some statement =>
    let next : OpenStatement := { statement with pieces := edit trim line :: statement.pieces }
    have hOpen : unfinished? before = some (statement.lineNumber, statement.text) := h.symm
    have hText : next.text = statement.text ++ edit trim line := statement.text_push _
    have hComplete : next.isComplete = terminated next.text := by
      rw [hText]
      exact statement.isComplete_push _ (terminated_of_unfinished? hOpen)
    have hRole : roleAfter before (.ok line) = .statement next.lineNumber next.text := by
      simp only [roleAfter, hOpen, hText]
      rfl
    rw [hRole]
    exact .settle hComplete
  | none =>
    have hNone : unfinished? before = none := h.symm
    simp only [roleAfter, hNone, UpdateFile.scan]
    cases LineKind.ofLine line with
    | statement text =>
      let opened : OpenStatement := { lineNumber := before.length + 1, pieces := [text] }
      have hText : opened.text = text := by simp [opened, OpenStatement.text, String.join]
      have hComplete : opened.isComplete = terminated opened.text := by
        rw [hText]
        rfl
      have hSettled : Tracks (before ++ [.statement opened.lineNumber opened.text])
          opened.settle.2 := .settle hComplete
      rwa [hText] at hSettled
    | skipped | header | row => simp [Tracks, unfinished?_push]

variable {layout : Layout}

theorem Layout.place_succ (layout : Layout) (n : Nat) :
    layout.place (n + 1) = layout.place n + (layout.inserted n).length + 1 := by
  rw [place, place, List.range_succ, List.flatMap_append, List.length_append,
    List.flatMap_singleton]
  omega

/-- Where a file ends or breaks off, only an open raw statement names its line. -/
theorem itemsFrom_end (place : Nat → Nat) (fault : Option IoFault) (n m : Nat)
    (statement : Option OpenStatement) :
    itemsFrom n (statement.map (OpenStatement.moved place)) (fault.map Except.error).toList =
      (itemsFrom m statement (fault.map Except.error).toList).map
        (Item.moved place (UpdateError.moved place)) := by
  cases fault with
  | none => cases statement <;> rfl
  | some fault => rfl

theorem itemsFrom_inserted {inserted : List String} (hSkipped : ∀ line ∈ inserted, IsSkipped line)
    {before : List LineRole} {statement : Option OpenStatement} (hTracks : Tracks before statement)
    (hOutside : inserted ≠ [] → unfinished? before = none) (n : Nat) (rest : List SourceLine) :
    itemsFrom n (statement.map (OpenStatement.moved layout.place)) (inserted.map .ok ++ rest) =
      itemsFrom (n + inserted.length) (statement.map (OpenStatement.moved layout.place)) rest := by
  by_cases hEmpty : inserted = []
  · subst hEmpty
    rfl
  · have hOpen := hOutside hEmpty
    rw [← hTracks, Option.map_eq_none_iff] at hOpen
    subst hOpen
    exact itemsFrom_skipped hSkipped n rest

/-- The items of a file in another layout are the same at other places. -/
theorem itemsFrom_woven (hSkipped : ∀ k, ∀ line ∈ layout.inserted k, IsSkipped line)
    {lines : List SourceLine} (fault : Option IoFault) {before : List LineRole}
    {statement : Option OpenStatement} (hTracks : Tracks before statement)
    (hOutside : ∀ k, layout.inserted (before.length + k) ≠ [] →
      unfinished? (rolesFrom before (lines.take k)) = none) :
    itemsFrom (layout.place before.length) (statement.map (OpenStatement.moved layout.place))
        (layout.woven before.length lines ++ (fault.map Except.error).toList) =
      (itemsFrom before.length statement (lines ++ (fault.map Except.error).toList)).map
        (Item.moved layout.place (UpdateError.moved layout.place)) := by
  -- The roles of the lines so far tell whether a statement is open, and so where lines may come in.
  induction lines generalizing before statement with
  | nil =>
    have hHere : layout.inserted before.length ≠ [] → unfinished? before = none := hOutside 0
    rw [Layout.woven, relay, itemsFrom_inserted (hSkipped _) hTracks hHere]
    exact itemsFrom_end layout.place fault _ _ statement
  | cons line rest ih =>
    have hHere : layout.inserted before.length ≠ [] → unfinished? before = none := hOutside 0
    rw [Layout.woven, relay, List.append_assoc, itemsFrom_inserted (hSkipped _) hTracks hHere]
    cases line with
    | error fault => rfl
    | ok line =>
      let next := before ++ [roleAfter before (.ok line)]
      have hLength : next.length = before.length + 1 := by simp [next]
      have hLater : ∀ k, layout.inserted (next.length + k) ≠ [] →
          unfinished? (rolesFrom next (rest.take k)) = none := by
        intro k hSome
        rw [hLength, Nat.add_assoc, Nat.add_comm 1] at hSome
        exact hOutside (k + 1) hSome
      have hRest := ih (hTracks.scan line) hLater
      rw [hLength, Layout.woven] at hRest
      rw [List.cons_append, List.cons_append, itemsFrom_cons, itemsFrom_cons, ← layout.place_succ,
        scan_moved layout.place (UpdateError.moved layout.place), List.map_append]
      simp only [hRest]
      cases (scan (before.length + 1) statement line).1 <;> rfl

theorem items_woven {lines : List SourceLine} (h : layout.Suits lines) (fault : Option IoFault) :
    items (layout.woven 0 lines ++ (fault.map Except.error).toList) =
      (items (lines ++ (fault.map Except.error).toList)).map
        (Item.moved layout.place (UpdateError.moved layout.place)) := by
  have hTracks : Tracks [] none := rfl
  refine itemsFrom_woven h.skipped fault hTracks ?_
  intro k hSome
  rw [List.length_nil, Nat.zero_add] at hSome
  exact h.outside k hSome

end Items

section Apply

variable (backend : Backend σ) (settings : BlockSettings)

theorem apply_displaced {layout : Layout} {first second : List UInt8} (fault : Option IoFault)
    (hSuits : layout.Suits (ofBytes first)) (hRelays : layout.Relays first second) :
    Displaces backend layout.place (UpdateFile.apply backend settings (linesUpTo first fault))
      (UpdateFile.apply backend settings (linesUpTo second fault)) := by
  have hTrimmed : (linesUpTo second fault).map trimmed =
      (layout.woven 0 (ofBytes first) ++ (fault.map Except.error).toList).map trimmed := by
    rw [linesUpTo, List.map_append, List.map_append, hRelays.trimmed_eq hSuits.blank]
  -- Without the blanks at the ends of lines the second file is the first one with lines inserted.
  rw [← apply_trimmed backend settings (linesUpTo second fault), hTrimmed, apply_trimmed,
    apply_eq_through, apply_eq_through, items_woven hSuits]
  exact (through_moved settings {} _).bind Reached.finish_placeless

/-- A file in another layout makes the same calls and leaves the same session, and what is reported
of it is the same up to the number of a line. -/
theorem apply_relaid {layout : Layout} {first second : List UInt8} (fault : Option IoFault)
    (hSuits : layout.Suits (ofBytes first)) (hRelays : layout.Relays first second)
    (session : Session σ) :
    let plain := UpdateFile.apply backend settings (linesUpTo first fault) session
    let relaid := UpdateFile.apply backend settings (linesUpTo second fault) session
    calls backend settings (linesUpTo second fault) session =
      calls backend settings (linesUpTo first fault) session ∧
    relaid.2 = plain.2 ∧ Displaced backend layout.place plain.1 relaid.1 := by
  intro plain relaid
  have hCalls := apply_displaced backend.recorded settings fault hSuits hRelays
    (session.recording [])
  constructor
  · rw [calls, calls, hCalls.1]
  · exact apply_displaced backend settings fault hSuits hRelays session

/-- A raw statement, and a row where there is no block. -/
def plainFile : List UInt8 := "SQL select\n 1;\n2,3".toUTF8.toList

/-- A comment before the statement, a blank line behind it, and other line ends. -/
def airyLayout : Layout where
  inserted k := if k = 0 then ["# more"] else if k = 2 then ["\t"] else []
  padding k := if k = 2 then " " else "\r"

def airyFile : List UInt8 := "# more\nSQL select\r\n 1;\r\n\t\n2,3 \n".toUTF8.toList

theorem airyLayout_suits : airyLayout.Suits (ofBytes plainFile) where
  skipped k line hMem := by
    by_cases hFirst : k = 0
    · subst hFirst
      obtain rfl : line = "# more" := by simpa [airyLayout] using hMem
      exact .inr ⟨[], " more".toList, by decide, by decide⟩
    · by_cases hThird : k = 2
      · subst hThird
        obtain rfl : line = "\t" := by simpa [airyLayout] using hMem
        exact .inl (by decide)
      · simp [airyLayout, hFirst, hThird] at hMem
  blank k := by
    by_cases hThird : k = 2
    · subst hThird
      decide
    · simp only [airyLayout, hThird, if_false]
      decide
  outside k hSome := by
    by_cases hFirst : k = 0
    · subst hFirst
      decide
    · by_cases hThird : k = 2
      · subst hThird
        decide +kernel
      · simp [airyLayout, hFirst, hThird] at hSome

def scripted (bytes : List UInt8) : Except UpdateError ApplyReport × Session Script :=
  UpdateFile.apply Script.backend { scope := .locally } (linesUpTo bytes none)
    { world := Script.steady }

theorem apply_relaid_airy :
    airyLayout.Suits (ofBytes plainFile) ∧ airyLayout.Relays plainFile airyFile ∧
      (scripted plainFile).1 = .error (.rowOutsideBlock 3) ∧
      (scripted airyFile).1 = .error (.rowOutsideBlock 5) ∧
      (scripted airyFile).2 = (scripted plainFile).2 ∧
      Displaced Script.backend airyLayout.place (scripted plainFile).1 (scripted airyFile).1 := by
  have hRelays : airyLayout.Relays plainFile airyFile := by
    unfold Layout.Relays
    decide +kernel
  have hPlain : (scripted plainFile).1 = .error (.rowOutsideBlock 3) := by decide +kernel
  have hAiry : (scripted airyFile).1 = .error (.rowOutsideBlock 5) := by decide +kernel
  obtain ⟨-, hSession, hDisplaced⟩ := apply_relaid Script.backend { scope := .locally } none
    airyLayout_suits hRelays { world := Script.steady }
  exact ⟨airyLayout_suits, hRelays, hPlain, hAiry, hSession, hDisplaced⟩

end Apply

end ValidityTables.UpdateFile
