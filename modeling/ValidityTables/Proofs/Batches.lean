import ValidityTables.Statement
import Mathlib.Algebra.GroupWithZero.Nat

/-! # Batches of tuples

The statements that insert rows carry the tuples of the rows in consecutive groups. A group of
several tuples keeps to the limit, and no other division into groups that do has fewer of them: a
group that fits is taken whole, and for the tuples after it the batch it is in needs at most one
statement more than a batch that starts with them.
-/

namespace ValidityTables.Statement

variable {α : Type} {maxBytes : Nat}

/-- A division of a list into consecutive groups, none of which is empty. -/
structure Divides (items : List α) (groups : List (List α)) : Prop where
  flatten : groups.flatten = items
  nonempty : ∀ group ∈ groups, group ≠ []

/-- A group of two or more items whose texts, with commas between them, keep to the limit. Nothing
is asked of a single item. -/
def Fits (maxBytes : Nat) (text : α → String) (group : List α) : Prop :=
  2 ≤ group.length → (",".intercalate (group.map text)).utf8ByteSize ≤ maxBytes

theorem Divides.cons {group items : List α} {groups : List (List α)} (hGroup : group ≠ [])
    (h : Divides items groups) : Divides (group ++ items) (group :: groups) where
  flatten := by rw [List.flatten_cons, h.flatten]
  nonempty := List.forall_mem_cons.mpr ⟨hGroup, h.nonempty⟩

theorem intercalate_isEmpty (text : α → String) (hText : ∀ a, text a ≠ "") (a : α) (rest : List α) :
    (",".intercalate ((a :: rest).map text)).isEmpty = false := by
  cases rest with
  | nil => simp [hText]
  | cons next rest =>
    rw [List.map_cons, List.map_cons, String.intercalate_cons_cons]
    simp [hText]

theorem intercalate_flatten (text : α → String) {groups : List (List α)}
    (hGroups : ∀ group ∈ groups, group ≠ []) :
    ",".intercalate (groups.map fun group => ",".intercalate (group.map text)) =
      ",".intercalate (groups.flatten.map text) := by
  induction groups with
  | nil => rfl
  | cons group groups ih =>
    obtain ⟨hGroup, hOthers⟩ := List.forall_mem_cons.mp hGroups
    cases groups with
    | nil => simp
    | cons next rest =>
      have hNext := (List.forall_mem_cons.mp hOthers).1
      have hFirst : group.map text ≠ [] := by simpa using hGroup
      have hLater : (next :: rest).flatten.map text ≠ [] := by simp [hNext]
      let joined (group : List α) := ",".intercalate (group.map text)
      calc ",".intercalate ((group :: next :: rest).map joined)
        _ = joined group ++ "," ++ ",".intercalate ((next :: rest).flatten.map text) := by
          rw [← ih hOthers]
          exact String.intercalate_cons_cons
        _ = ",".intercalate ((group :: next :: rest).flatten.map text) := by
          rw [← String.intercalate_append_of_ne_nil hFirst hLater, ← List.map_append]
          rfl

theorem intercalate_snoc (text : α → String) (a item : α) (begun : List α) :
    ",".intercalate ((a :: begun ++ [item]).map text) =
      ",".intercalate ((a :: begun).map text) ++ "," ++ text item := by
  rw [List.map_append, String.intercalate_append_of_ne_nil (by simp) (by simp), List.map_singleton,
    String.intercalate_singleton]

section Step

variable {batch tuple : String} {rest : List String}

theorem batchesFrom_full (hBatch : batch.isEmpty = false)
    (h : maxBytes < batch.utf8ByteSize + 1 + tuple.utf8ByteSize) :
    batchesFrom maxBytes batch (tuple :: rest) = batch :: batchesFrom maxBytes tuple rest := by
  rw [batchesFrom, hBatch, if_neg Bool.false_ne_true, if_pos h]

theorem batchesFrom_room (hBatch : batch.isEmpty = false)
    (h : batch.utf8ByteSize + 1 + tuple.utf8ByteSize ≤ maxBytes) :
    batchesFrom maxBytes batch (tuple :: rest) =
      batchesFrom maxBytes (batch ++ "," ++ tuple) rest := by
  rw [batchesFrom, hBatch, if_neg Bool.false_ne_true, if_neg (Nat.not_lt.mpr h)]

theorem batches_cons : batches maxBytes (tuple :: rest) = batchesFrom maxBytes tuple rest := by
  rw [batches, batchesFrom]
  rfl

theorem utf8ByteSize_joined :
    (batch ++ "," ++ tuple).utf8ByteSize = batch.utf8ByteSize + 1 + tuple.utf8ByteSize := by
  rw [String.utf8ByteSize_append, String.utf8ByteSize_append]
  rfl

end Step

/-- A value list that was begun with some items goes on with the others. -/
theorem batchesFrom_divides (maxBytes : Nat) (text : α → String) (hText : ∀ a, text a ≠ "")
    (a : α) (begun items : List α) (hFits : Fits maxBytes text (a :: begun)) :
    ∃ groups, Divides (a :: begun ++ items) groups ∧
      (∀ group ∈ groups, Fits maxBytes text group) ∧
      batchesFrom maxBytes (",".intercalate ((a :: begun).map text)) (items.map text) =
        groups.map fun group => ",".intercalate (group.map text) := by
  have hFull (a : α) (begun : List α) := intercalate_isEmpty text hText a begun
  -- `a :: begun` is the group whose values are in the batch.
  induction items generalizing a begun with
  | nil =>
    refine ⟨[a :: begun], ⟨by simp, by simp⟩, by simpa using hFits, ?_⟩
    rw [List.map_nil, batchesFrom, hFull]
    rfl
  | cons item rest ih =>
    by_cases hRoom : (",".intercalate ((a :: begun).map text)).utf8ByteSize + 1 +
        (text item).utf8ByteSize ≤ maxBytes
    · have hNext : Fits maxBytes text (a :: (begun ++ [item])) := by
        intro _
        rwa [← List.cons_append, intercalate_snoc, utf8ByteSize_joined]
      obtain ⟨groups, hDivides, hAll, hBatches⟩ := ih a (begun ++ [item]) hNext
      rw [← List.cons_append, List.append_assoc, List.singleton_append] at hDivides
      refine ⟨groups, hDivides, hAll, (batchesFrom_room (hFull a begun) hRoom).trans ?_⟩
      rw [← intercalate_snoc]
      exact hBatches
    · have hAlone : Fits maxBytes text [item] := fun hMany => absurd hMany (by simp)
      obtain ⟨groups, hDivides, hAll, hBatches⟩ := ih item [] hAlone
      refine ⟨(a :: begun) :: groups, hDivides.cons (List.cons_ne_nil a begun),
        List.forall_mem_cons.mpr ⟨hFits, hAll⟩,
        (batchesFrom_full (hFull a begun) (Nat.lt_of_not_le hRoom)).trans ?_⟩
      rw [List.map_singleton, String.intercalate_singleton] at hBatches
      rw [hBatches]
      rfl

theorem batches_divide (maxBytes : Nat) (text : α → String) (hText : ∀ a, text a ≠ "")
    (items : List α) :
    ∃ groups, Divides items groups ∧ (∀ group ∈ groups, Fits maxBytes text group) ∧
      batches maxBytes (items.map text) =
        groups.map fun group => ",".intercalate (group.map text) := by
  cases items with
  | nil => exact ⟨[], ⟨rfl, by simp⟩, by simp, rfl⟩
  | cons item rest =>
    have hAlone : Fits maxBytes text [item] := fun hMany => absurd hMany (by simp)
    obtain ⟨groups, hDivides, hAll, hBatches⟩ :=
      batchesFrom_divides maxBytes text hText item [] rest hAlone
    refine ⟨groups, hDivides, hAll, ?_⟩
    rw [← hBatches, List.map_cons, batches_cons, List.map_singleton, String.intercalate_singleton]

section Fewest

/-- A batch that was begun with less needs no more statements for the same tuples, and one that was
begun with more needs at most one statement more. -/
theorem length_batchesFrom_le {less more : String} {tuples : List String}
    (hTuples : ∀ tuple ∈ tuples, tuple.isEmpty = false) (hLess : less.isEmpty = false)
    (hMore : more.isEmpty = false) (hSize : less.utf8ByteSize ≤ more.utf8ByteSize) :
    (batchesFrom maxBytes less tuples).length ≤ (batchesFrom maxBytes more tuples).length ∧
      (batchesFrom maxBytes more tuples).length ≤
        (batchesFrom maxBytes less tuples).length + 1 := by
  induction tuples generalizing less more with
  | nil => simp [batchesFrom, hLess, hMore]
  | cons tuple rest ih =>
    obtain ⟨hTuple, hRest⟩ := List.forall_mem_cons.mp hTuples
    have hJoined {batch : String} : (batch ++ "," ++ tuple).isEmpty = false := by simp
    by_cases hFull : maxBytes < less.utf8ByteSize + 1 + tuple.utf8ByteSize
    · -- Both batches end here, and the tuple begins the next one.
      rw [batchesFrom_full hLess hFull, batchesFrom_full hMore (by omega)]
      simp
    · rw [batchesFrom_room hLess (Nat.not_lt.mp hFull)]
      by_cases hOver : maxBytes < more.utf8ByteSize + 1 + tuple.utf8ByteSize
      · -- Only the longer batch ends, and what follows it begins with the tuple alone.
        have hShort : tuple.utf8ByteSize ≤ (less ++ "," ++ tuple).utf8ByteSize := by
          rw [utf8ByteSize_joined]
          omega
        obtain ⟨hFewer, hOne⟩ := ih hRest hTuple hJoined hShort
        rw [batchesFrom_full hMore hOver, List.length_cons]
        omega
      · rw [batchesFrom_room hMore (Nat.not_lt.mp hOver)]
        refine ih hRest hJoined hJoined ?_
        rw [utf8ByteSize_joined, utf8ByteSize_joined]
        omega

theorem utf8ByteSize_le_intercalate {batch : String} (group : List String) :
    batch.utf8ByteSize ≤ (",".intercalate (batch :: group)).utf8ByteSize := by
  cases group with
  | nil => exact Nat.le_of_eq (by rw [String.intercalate_singleton])
  | cons tuple group =>
    rw [String.intercalate_cons_cons, String.utf8ByteSize_append, String.utf8ByteSize_append]
    omega

/-- Tuples that fit into a batch are all taken into it. -/
theorem batchesFrom_append {batch : String} {group : List String} (rest : List String)
    (hBatch : batch.isEmpty = false)
    (hFits : group ≠ [] → (",".intercalate (batch :: group)).utf8ByteSize ≤ maxBytes) :
    batchesFrom maxBytes batch (group ++ rest) =
      batchesFrom maxBytes (",".intercalate (batch :: group)) rest := by
  induction group generalizing batch with
  | nil => rw [List.nil_append, String.intercalate_singleton]
  | cons tuple group ih =>
    have hSize := hFits (List.cons_ne_nil tuple group)
    have hGrown : ",".intercalate (batch :: tuple :: group) =
        ",".intercalate ((batch ++ "," ++ tuple) :: group) := by
      rw [String.intercalate_cons_cons, String.intercalate_cons_append]
    have hRoom : batch.utf8ByteSize + 1 + tuple.utf8ByteSize ≤ maxBytes := by
      rw [← utf8ByteSize_joined]
      exact Nat.le_trans (utf8ByteSize_le_intercalate group) (hGrown ▸ hSize)
    rw [List.cons_append, batchesFrom_room hBatch hRoom, hGrown]
    exact ih (by simp) fun _ => hGrown ▸ hSize

variable {text : α → String} (hText : ∀ a, text a ≠ "")

include hText

/-- A group that fits costs one statement more than what comes after it. -/
theorem length_batches_append_le {group : List α} (rest : List α) (hGroup : group ≠ [])
    (hFits : Fits maxBytes text group) :
    (batches maxBytes ((group ++ rest).map text)).length ≤
      (batches maxBytes (rest.map text)).length + 1 := by
  have hTexts : ∀ tuple ∈ rest.map text, tuple.isEmpty = false := by simp [hText]
  obtain ⟨first, others, rfl⟩ := List.exists_cons_of_ne_nil hGroup
  let batch := ",".intercalate ((first :: others).map text)
  have hBatch : batch.isEmpty = false := intercalate_isEmpty text hText first others
  have hFirst : (text first).isEmpty = false := by simp [hText]
  have hWhole : batches maxBytes ((first :: others ++ rest).map text) =
      batchesFrom maxBytes batch (rest.map text) := by
    rw [List.cons_append, List.map_cons, List.map_append, batches_cons]
    refine batchesFrom_append _ hFirst fun hMore => hFits ?_
    have hOthers : others ≠ [] := fun hNone => hMore (by rw [hNone, List.map_nil])
    exact Nat.succ_le_succ (List.length_pos_iff.mpr hOthers)
  rw [hWhole]
  cases rest with
  | nil => simp [batchesFrom, hBatch]
  | cons next rest =>
    obtain ⟨hNext, hRest⟩ := List.forall_mem_cons.mp hTexts
    rw [List.map_cons, batches_cons]
    by_cases hFull : maxBytes < batch.utf8ByteSize + 1 + (text next).utf8ByteSize
    · exact Nat.le_of_eq (by rw [batchesFrom_full hBatch hFull, List.length_cons])
    · rw [batchesFrom_room hBatch (Nat.not_lt.mp hFull)]
      refine (length_batchesFrom_le hRest hNext (by simp) ?_).2
      rw [utf8ByteSize_joined]
      omega

/-- A division into groups that keep to the limit has at least as many groups as there are
batches. -/
theorem length_batches_le {items : List α} {groups : List (List α)}
    (hDivides : Divides items groups) (hFits : ∀ group ∈ groups, Fits maxBytes text group) :
    (batches maxBytes (items.map text)).length ≤ groups.length := by
  induction groups generalizing items with
  | nil =>
    obtain rfl : [] = items := hDivides.flatten
    exact Nat.le_refl 0
  | cons group groups ih =>
    obtain ⟨hGroup, hOthers⟩ := List.forall_mem_cons.mp hDivides.nonempty
    obtain ⟨hFirst, hRest⟩ := List.forall_mem_cons.mp hFits
    rw [← hDivides.flatten, List.flatten_cons]
    calc (batches maxBytes ((group ++ groups.flatten).map text)).length
      _ ≤ (batches maxBytes (groups.flatten.map text)).length + 1 :=
        length_batches_append_le hText groups.flatten hGroup hFirst
      _ ≤ groups.length + 1 := Nat.succ_le_succ (ih ⟨rfl, hOthers⟩ hRest)

end Fewest

section Rows

theorem rowTuple_ne_empty (seqno : UInt32) (position : Nat) (row : String) :
    rowTuple seqno position row ≠ "" := by
  simp [rowTuple]

/-- The tuple of a row with its position counted from zero, as in a list. -/
def indexedTuple (seqno : UInt32) (row : String × Nat) : String :=
  rowTuple seqno (row.2 + 1) row.1

def insertGroup (table : String) (seqno : UInt32) (group : List (String × Nat)) : String :=
  insertValues table (",".intercalate (group.map (indexedTuple seqno)))

theorem rowTuples_eq_map (seqno : UInt32) (rows : List String) :
    rowTuples seqno rows = rows.zipIdx.map (indexedTuple seqno) := List.mapIdx_eq_zipIdx_map

theorem indexedTuple_ne_empty (seqno : UInt32) (row : String × Nat) : indexedTuple seqno row ≠ "" :=
  rowTuple_ne_empty seqno (row.2 + 1) row.1

theorem insertRows_divides (table : String) (seqno : UInt32) (rows : List String) (maxBytes : Nat) :
    ∃ groups, Divides rows.zipIdx groups ∧
      (∀ group ∈ groups, Fits maxBytes (indexedTuple seqno) group) ∧
      insertRows table seqno rows maxBytes = groups.map (insertGroup table seqno) := by
  obtain ⟨groups, hDivides, hFits, hBatches⟩ :=
    batches_divide maxBytes (indexedTuple seqno) (indexedTuple_ne_empty seqno) rows.zipIdx
  refine ⟨groups, hDivides, hFits, ?_⟩
  rw [insertRows, rowTuples_eq_map, hBatches, List.map_map]
  rfl

theorem insertValues_injective (table : String) : Function.Injective (insertValues table) := by
  intro values other h
  simpa only [insertValues, String.append_left_inj, String.append_right_inj] using h

/-- The groups that the statements carry keep to the limit, and no division of the rows into groups
that do has fewer of them. -/
theorem insertRows_fewest (table : String) (seqno : UInt32) (rows : List String) (maxBytes : Nat) :
    let statements := insertRows table seqno rows maxBytes
    (∃ groups, Divides rows.zipIdx groups ∧
      (∀ group ∈ groups, Fits maxBytes (indexedTuple seqno) group) ∧
      statements = groups.map (insertGroup table seqno)) ∧
    ∀ groups, Divides rows.zipIdx groups →
      (∀ group ∈ groups, Fits maxBytes (indexedTuple seqno) group) →
      statements.length ≤ groups.length := by
  intro statements
  refine ⟨insertRows_divides table seqno rows maxBytes, fun groups hDivides hFits => ?_⟩
  have hCount : statements.length =
      (batches maxBytes (rows.zipIdx.map (indexedTuple seqno))).length := by
    rw [← rowTuples_eq_map]
    exact List.length_map _
  rw [hCount]
  exact length_batches_le (indexedTuple_ne_empty seqno) hDivides hFits

/-- Of three tuples of seven bytes the last two fit together, and so do the first two. -/
theorem insertRows_fewest_of_last_two :
    let groups := [[("1", 0)], [("2", 1), ("3", 2)]]
    Divides ["1", "2", "3"].zipIdx groups ∧
      (∀ group ∈ groups, Fits 15 (indexedTuple 7) group) ∧
      (insertRows "DEMO" 7 ["1", "2", "3"] 15).length ≤ 2 ∧
      insertRows "DEMO" 7 ["1", "2", "3"] 15 =
        ["INSERT INTO DEMO VALUES (7,1,1),(7,2,2);", "INSERT INTO DEMO VALUES (7,3,3);"] := by
  intro groups
  have hDivides : Divides ["1", "2", "3"].zipIdx groups := ⟨rfl, by decide⟩
  have hFits : ∀ group ∈ groups, Fits 15 (indexedTuple 7) group := by
    unfold Fits
    decide +kernel
  exact ⟨hDivides, hFits,
    (insertRows_fewest "DEMO" 7 ["1", "2", "3"] 15).2 groups hDivides hFits, by decide +kernel⟩

end Rows

end ValidityTables.Statement
