import ValidityTables.Proofs.Utf8
import ValidityTables.Proofs.Words
import ValidityTables.UpdateFile.Source

/-! # The ends of lines

No step of an update looks at the blanks at the end of a line. A carriage return is one of them, so
a file may as well be cut at its line feeds alone, and neither the kind of its line ends nor blanks
before them matter to what the update does.
-/

namespace ValidityTables

variable {σ : Type}

namespace Text

theorem trimEnd_trimEnd (cs : List Char) : trimEnd (trimEnd cs) = trimEnd cs := by
  obtain ⟨after, hAfter, hSplit⟩ := exists_trimEnd cs
  conv => rhs; rw [hSplit]
  rw [trimEnd_append hAfter]

theorem trim_trimEnd (cs : List Char) : trim (trimEnd cs) = trim cs := by
  obtain ⟨after, hAfter, hSplit⟩ := exists_trimEnd cs
  conv => rhs; rw [hSplit]
  rw [trim_append hAfter]

theorem edit_trim_trimEnd (line : String) : edit trim (edit trimEnd line) = edit trim line := by
  rw [edit, edit, String.toList_ofList, trim_trimEnd]
  rfl

theorem edit_trimEnd_trimEnd (line : String) :
    edit trimEnd (edit trimEnd line) = edit trimEnd line := by
  rw [edit, edit, String.toList_ofList, trimEnd_trimEnd]

end Text

open Text

section Consumers

theorem LineKind.ofLine_trimEnd (line : String) : ofLine (edit trimEnd line) = ofLine line := by
  rw [ofLine, ofLine, edit, String.toList_ofList, trim_trimEnd]

theorem Header.parse_trimEnd (line : String) : parse (edit trimEnd line) = parse line := by
  rw [parse, parse, edit, String.toList_ofList, trim_trimEnd]

theorem Header.checkDates_trimEnd (header : Header) (line : String) :
    header.checkDates (edit trimEnd line) = header.checkDates line := by
  rw [checkDates, checkDates, edit_trim_trimEnd]

theorem Rows.push_trimEnd (convert : Bool) (rows : Rows) (line : String) :
    rows.push convert (edit trimEnd line) = rows.push convert line := by
  rw [push, push, stored, stored, edit_trimEnd_trimEnd]

theorem Block.begin_trimEnd (backend : Backend σ) (settings : BlockSettings) (line : String) :
    Block.begin backend settings (edit trimEnd line) = Block.begin backend settings line := by
  simp only [begin, Header.parse_trimEnd, Header.checkDates_trimEnd]

theorem Block.addRow_trimEnd (block : Block) (line : String) :
    block.addRow (edit trimEnd line) = block.addRow line := by
  simp only [addRow, Rows.push_trimEnd]

end Consumers

namespace UpdateFile

/-- A line without the blanks at its end. -/
def trimmed (line : SourceLine) : SourceLine := line.map (edit trimEnd)

theorem takeLine_trimEnd (backend : Backend σ) (settings : BlockSettings) (progress : Progress)
    (line : String) :
    takeLine backend settings progress (edit trimEnd line) =
      takeLine backend settings progress line := by
  unfold takeLine
  cases progress.statement with
  | some statement => simp only [edit_trim_trimEnd]
  | none =>
    simp only [LineKind.ofLine_trimEnd, beginBlock, Block.begin_trimEnd, addRow,
      Block.addRow_trimEnd]

/-- An update is applied to what stands in its lines before the blanks at their ends. -/
theorem apply_trimmed (backend : Backend σ) (settings : BlockSettings) (lines : List SourceLine) :
    UpdateFile.apply backend settings (lines.map trimmed) =
      UpdateFile.apply backend settings lines := by
  unfold UpdateFile.apply
  generalize ({} : Progress) = progress
  induction lines generalizing progress with
  | nil => rfl
  | cons line rest ih =>
    cases line with
    | error fault => rfl
    | ok line =>
      simp only [List.map_cons, trimmed, Except.map, applyFrom, takeLine_trimEnd]
      congr 1
      funext next
      exact ih next

section Bytes

/-- The lines of a file with all their bytes but the line feed. -/
def rawLines (bytes : List UInt8) : List (List UInt8) :=
  let pieces := bytes.splitOn 10
  if pieces.getLast? = some [] then pieces.dropLast else pieces

theorem rawLines_cut {front : List UInt8} (h : 10 ∉ front) (rest : List UInt8) :
    rawLines (front ++ 10 :: rest) = front :: rawLines rest := by
  obtain ⟨first, more, hRest⟩ := List.exists_cons_of_ne_nil (List.splitOn_ne_nil 10 rest)
  simp only [rawLines, List.splitOn_append_cons_self_of_not_mem h, hRest, List.getLast?_cons_cons,
    List.dropLast_cons_cons]
  split <;> rfl

theorem rawLines_last {bytes : List UInt8} (h : 10 ∉ bytes) :
    rawLines bytes = if bytes.isEmpty then [] else [bytes] := by
  simp only [rawLines, List.splitOn_eq_singleton h]
  cases bytes <;> simp

/-- Blanks after a line, even after one that cannot be read, are not part of it once it is
trimmed. -/
theorem trimmed_readLine_append (bytes : List UInt8) {blanks : String}
    (h : AllBlank blanks.toList) :
    trimmed (readLine (bytes ++ Utf8.encode blanks)) = trimmed (readLine bytes) := by
  rw [readLine, readLine, Utf8.encode_eq, Utf8.decode?_append]
  cases Utf8.decode? bytes with
  | none => rfl
  | some cs =>
    simp only [Option.map_some, trimmed, Except.map, edit, String.toList_ofList, trimEnd_append h]

theorem trimmed_readLine_return (bytes : List UInt8) :
    trimmed (readLine (bytes ++ [13])) = trimmed (readLine bytes) := by
  have hReturn : Utf8.encode "\r" = [13] := by decide +kernel
  rw [← hReturn, trimmed_readLine_append bytes (by decide)]

theorem linesFrom_trimmed {line : List UInt8} (h : 10 ∉ line) (bytes : List UInt8) :
    (linesFrom 10 13 line bytes).map (trimmed ∘ readLine) =
      (rawLines (line.reverse ++ bytes)).map (trimmed ∘ readLine) := by
  induction bytes generalizing line with
  | nil =>
    rw [List.append_nil, rawLines_last (by simpa using h), List.isEmpty_reverse]
    rfl
  | cons b rest ih =>
    unfold linesFrom
    split
    · rename_i hFeed
      subst hFeed
      rw [rawLines_cut (by simpa using h), List.map_cons, List.map_cons, ih List.not_mem_nil]
      congr 1
      -- Both lines are the same but for a carriage return that went with the line feed.
      cases line with
      | nil => rfl
      | cons last before =>
        simp only
        split
        · rename_i hReturn
          subst hReturn
          rw [List.reverse_cons]
          exact (trimmed_readLine_return before.reverse).symm
        · rfl
    · rename_i hOther
      rw [ih (by simp [h, Ne.symm hOther]), List.reverse_cons, List.append_assoc]
      rfl

/-- Which line feeds come after a carriage return does not matter once lines are trimmed. -/
theorem ofBytes_trimmed (bytes : List UInt8) :
    (ofBytes bytes).map trimmed = (rawLines bytes).map (trimmed ∘ readLine) := by
  rw [ofBytes, List.map_map]
  exact linesFrom_trimmed List.not_mem_nil bytes

end Bytes

end UpdateFile

end ValidityTables
