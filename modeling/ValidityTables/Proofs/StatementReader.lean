import ValidityTables.Proofs.FileTexts

/-! # Reading statements back

Every statement of an update can be read back: what it says is what it stands for. So there are
services that do what statements say, over tables that are kept as such, and over them a statement
takes full effect or none, even if connections are lost on the way.
-/

namespace ValidityTables

open Text

/-- The number in front of a text, and the text after it. -/
def readSeqno (cs : List Char) : UInt32 × List Char :=
  (UInt32.ofNat (Nat.ofDigitChars 10 (cs.takeWhile Char.isDigit) 0), cs.dropWhile Char.isDigit)

/-- A tuple without its closing parenthesis; commas and the opening one may come before it. -/
def readRow (cs : List Char) : StoredRow :=
  let (seqno, rest) := readSeqno (cs.dropWhile fun c => c == ',' || c == '(')
  { seqno, values := String.ofList rest.tail }

/-- The rows of a value list. Only in the tuple of a validity row a blank follows the number. -/
def readRows (cs : List Char) : List StoredRow :=
  let (seqno, rest) := readSeqno cs.tail
  if rest.tail.head? == some ' ' then
    [{ seqno, values := String.ofList (rest.drop 2).dropLast }]
  else ((cs.splitOn ')').dropLast).map readRow

/-- The word in front of a text, and the text after it. -/
def readTable (cs : List Char) : String × List Char :=
  (String.ofList (cs.takeWhile (· != ' ')), cs.dropWhile (· != ' '))

/-- The text after a marker, if it begins with it. -/
def readAfter (marker : String) (cs : List Char) : List Char :=
  (Header.dropMarker? marker.toList cs).getD []

def Change.read? (sql : List Char) : Option Change :=
  match Header.dropMarker? "CREATE TABLE ".toList sql with
  | some rest => some (.create (readTable rest).1)
  | none =>
    match Header.dropMarker? "DELETE FROM ".toList sql with
    | some rest =>
      let (table, rest) := readTable rest
      some (.delete table (readSeqno (readAfter " WHERE SEQNO=" rest)).1)
    | none =>
      match Header.dropMarker? "INSERT INTO ".toList sql with
      | some rest =>
        let (table, rest) := readTable rest
        some (.insert table (readRows (readAfter " VALUES " rest).dropLast))
      | none => none

theorem readAfter_append (marker : String) (rest : List Char) :
    readAfter marker (marker.toList ++ rest) = rest := by
  rw [readAfter, dropMarker?_append, Option.getD_some]

theorem readSeqno_toString (seqno : UInt32) {rest : List Char}
    (hRest : ∀ c, rest.head? = some c → c.isDigit = false) :
    readSeqno ((toString seqno).toList ++ rest) = (seqno, rest) := by
  have hDigits : (toString seqno).toList = Nat.toDigits 10 seqno.toNat := Nat.toList_repr
  have hFront : ∀ c ∈ Nat.toDigits 10 seqno.toNat, c.isDigit = true := fun c hMem =>
    Nat.isDigit_of_mem_toDigits (by decide) (by decide) hMem
  obtain ⟨hTake, hDrop⟩ := takeWhile_append_stop hFront hRest
  rw [readSeqno, hDigits, hTake, hDrop, Nat.ofDigitChars_ten_toDigits, UInt32.ofNat_toNat]

theorem readTable_name {table : String} (hName : IsName table) {rest : List Char}
    (hRest : rest.head? = some ' ') : readTable (table.toList ++ rest) = (table, rest) := by
  have hFront : ∀ c ∈ table.toList, (c != ' ') = true := by
    intro c hMem
    rw [bne_iff_ne]
    rintro rfl
    have hBlank : isWord ' ' = true := hName ' ' hMem
    have hNot : isWord ' ' = false := by decide +kernel
    rw [hNot] at hBlank
    cases hBlank
  have hStop : ∀ c, rest.head? = some c → (c != ' ') = false := by simp [hRest]
  obtain ⟨hTake, hDrop⟩ := takeWhile_append_stop hFront hStop
  rw [readTable, hTake, hDrop, String.ofList_toList]

def openTuple (seqno : UInt32) (row : String × Nat) : List Char :=
  '(' :: ((toString seqno).toList ++ ',' :: (storedRow seqno row).values.toList)

theorem indexedTuple_toList (seqno : UInt32) (row : String × Nat) :
    (Statement.indexedTuple seqno row).toList = openTuple seqno row ++ [')'] := by
  simp [Statement.indexedTuple, Statement.rowTuple, openTuple, storedRow]

theorem isDigit_seqno {seqno : UInt32} {c : Char} (h : c ∈ (toString seqno).toList) :
    c.isDigit = true := isDigit_of_mem_repr h

theorem head?_seqno {seqno : UInt32} {rest : List Char} {c : Char}
    (h : ((toString seqno).toList ++ rest).head? = some c) : c.isDigit = true := by
  have hDigits : (toString seqno).toList = Nat.toDigits 10 seqno.toNat := Nat.toList_repr
  cases hList : (toString seqno).toList with
  | nil => exact absurd (hDigits.symm.trans hList) Nat.toDigits_ne_nil
  | cons first digits =>
    rw [hList] at h
    cases h
    exact isDigit_seqno (hList ▸ List.mem_cons_self)

theorem values_cons (seqno : UInt32) (row : String × Nat) :
    ∃ c rest, (storedRow seqno row).values.toList = c :: rest ∧ c.isDigit = true := by
  have hDigits : (row.2 + 1).repr.toList = Nat.toDigits 10 (row.2 + 1) := Nat.toList_repr
  cases hList : Nat.toDigits 10 (row.2 + 1) with
  | nil => exact absurd hList Nat.toDigits_ne_nil
  | cons c rest =>
    refine ⟨c, rest ++ ',' :: row.1.toList, by simp [storedRow, hList], ?_⟩
    exact isDigit_of_mem_repr (hDigits ▸ hList ▸ List.mem_cons_self)

theorem closing_not_mem {seqno : UInt32} {row : String × Nat} (hRow : ')' ∉ row.1.toList) :
    ')' ∉ openTuple seqno row := by
  have hDigits {n : Nat} : ')' ∉ n.repr.toList := fun hMem => by
    cases isDigit_of_mem_repr hMem
  have hSeqno : ')' ∉ (toString seqno).toList := fun hMem => by
    cases isDigit_seqno hMem
  simp only [openTuple, storedRow, String.toList_append, List.mem_cons, List.mem_append]
  rintro (h | h | h | (h | h) | h)
  · cases h
  · exact hSeqno h
  · cases h
  · exact hDigits h
  · revert h
    decide
  · exact hRow h

theorem readRow_openTuple (seqno : UInt32) (row : String × Nat) (front : List Char)
    (hFront : ∀ c ∈ front, c = ',') :
    readRow (front ++ openTuple seqno row) = storedRow seqno row := by
  have hSkipped : (front ++ openTuple seqno row).dropWhile (fun c => c == ',' || c == '(') =
      (toString seqno).toList ++ ',' :: (storedRow seqno row).values.toList := by
    have hSplit : front ++ openTuple seqno row = (front ++ ['(']) ++
        ((toString seqno).toList ++ ',' :: (storedRow seqno row).values.toList) := by
      simp [openTuple]
    rw [hSplit]
    refine (takeWhile_append_stop (fun c hMem => ?_) fun c hHead => ?_).2
    · obtain hMem | hMem := List.mem_append.mp hMem
      · simp [hFront c hMem]
      · simp [List.mem_singleton.mp hMem]
    · have hDigit := head?_seqno hHead
      rw [Bool.or_eq_false_iff, beq_eq_false_iff_ne, beq_eq_false_iff_ne]
      constructor <;> rintro rfl <;> cases hDigit
  rw [readRow, hSkipped, readSeqno_toString seqno (by simp)]
  simp only [List.tail_cons, String.ofList_toList]
  rfl

/-- Between closing parentheses there are the tuples, with commas before all but the first. -/
theorem splitOn_tuples (seqno : UInt32) (row : String × Nat) (rest : List (String × Nat))
    (hRows : ∀ other ∈ row :: rest, ')' ∉ other.1.toList) {front : List Char}
    (hFront : ')' ∉ front) :
    (front ++ [','].intercalate
        ((row :: rest).map fun row => openTuple seqno row ++ [')'])).splitOn ')' =
      (front ++ openTuple seqno row) :: (rest.map fun row => ',' :: openTuple seqno row) ++
        [[]] := by
  have hFirst : ')' ∉ front ++ openTuple seqno row := by
    simp [hFront, closing_not_mem (hRows row (by simp))]
  induction rest generalizing row front with
  | nil =>
    rw [List.map_singleton, List.intercalate_singleton, ← List.append_assoc,
      List.splitOn_append_cons_self_of_not_mem hFirst]
    simp
  | cons next rest ih =>
    have hLater : ∀ other ∈ next :: rest, ')' ∉ other.1.toList := fun other hMem =>
      hRows other (List.mem_cons_of_mem _ hMem)
    have hNext : ')' ∉ [','] ++ openTuple seqno next := by
      simp [closing_not_mem (hLater next (by simp))]
    have hSplit : front ++ [','].intercalate
        ((row :: next :: rest).map fun row => openTuple seqno row ++ [')']) =
        (front ++ openTuple seqno row) ++ ')' :: ([','] ++ [','].intercalate
          ((next :: rest).map fun row => openTuple seqno row ++ [')'])) := by
      rw [List.map_cons, List.map_cons, List.intercalate_cons_cons]
      simp
    rw [hSplit, List.splitOn_append_cons_self_of_not_mem hFirst, ih next hLater (by simp) hNext]
    simp

theorem readRows_group (seqno : UInt32) (row : String × Nat) (rest : List (String × Nat))
    (hRows : ∀ other ∈ row :: rest, ')' ∉ other.1.toList) :
    readRows (",".intercalate ((row :: rest).map (Statement.indexedTuple seqno))).toList =
      (row :: rest).map (storedRow seqno) := by
  have hTexts : (",".intercalate ((row :: rest).map (Statement.indexedTuple seqno))).toList =
      [','].intercalate ((row :: rest).map fun row => openTuple seqno row ++ [')']) := by
    have hTuples := List.map_congr_left (l := row :: rest) fun row _ =>
      indexedTuple_toList seqno row
    rw [String.toList_intercalate, List.map_map, ← hTuples]
    rfl
  have hSplit := splitOn_tuples seqno row rest hRows List.not_mem_nil
  obtain ⟨c, digits, hValues, hDigit⟩ := values_cons seqno row
  obtain ⟨more, hFirst⟩ : ∃ more, [','].intercalate
      ((row :: rest).map fun row => openTuple seqno row ++ [')']) =
        openTuple seqno row ++ more := by
    cases rest with
    | nil => exact ⟨[')'], by simp⟩
    | cons next rest =>
      rw [List.map_cons, List.map_cons, List.intercalate_cons_cons, List.append_assoc,
        List.append_assoc]
      exact ⟨_, rfl⟩
  have hNumber : readSeqno (openTuple seqno row ++ more).tail =
      (seqno, ',' :: c :: (digits ++ more)) := by
    have hTail : (openTuple seqno row ++ more).tail =
        (toString seqno).toList ++ ',' :: c :: (digits ++ more) := by
      simp [openTuple, hValues]
    rw [hTail]
    exact readSeqno_toString seqno (by simp)
  have hBlank : c ≠ ' ' := by
    rintro rfl
    cases hDigit
  have hRest : ∀ other ∈ rest, readRow (',' :: openTuple seqno other) = storedRow seqno other :=
    fun other _ => readRow_openTuple seqno other [','] (by simp)
  rw [hTexts, readRows, hFirst, hNumber, ← hFirst]
  rw [List.nil_append, List.nil_append] at hSplit
  simp only [List.tail_cons, List.head?_cons, beq_iff_eq, Option.some.injEq, hBlank, if_false]
  rw [hSplit, List.dropLast_concat, List.map_cons, List.map_map, List.map_cons]
  exact congrArg₂ List.cons (readRow_openTuple seqno row [] (by simp))
    (List.map_congr_left hRest)

theorem readRows_validityRow (header : Header) (seqno : UInt32) (inserted : String) :
    readRows ("(" ++ ", ".intercalate (Statement.validityValues header seqno inserted) ++
      ")").toList = [validityRow header seqno inserted] := by
  obtain ⟨first, others, hOthers⟩ : ∃ first others,
      Statement.validityValues header seqno inserted = toString seqno :: first :: others :=
    ⟨_, _, rfl⟩
  have hText : ("(" ++ ", ".intercalate (Statement.validityValues header seqno inserted) ++
      ")").toList.tail = (toString seqno).toList ++
        ',' :: ' ' :: ((validityRow header seqno inserted).values.toList ++ [')']) := by
    simp [validityRow, hOthers]
  rw [readRows, hText, readSeqno_toString seqno (by simp)]
  simp only [List.tail_cons, List.head?_cons, beq_self_eq_true, if_true, List.drop_succ_cons,
    List.drop_zero, List.dropLast_concat, String.ofList_toList]
  rfl

/-- The characters of a text of five parts. With literals for the parts, rewriting would look into
them. -/
theorem toList_five (a b c d e : String) : (a ++ b ++ c ++ d ++ e).toList =
    a.toList ++ (b.toList ++ (c.toList ++ (d.toList ++ e.toList))) := by
  simp only [String.toList_append, List.append_assoc]

theorem read?_insertValues {table values : String} (hName : IsName table) {rows : List StoredRow}
    (hRows : readRows values.toList = rows) :
    Change.read? (Statement.insertValues table values).toList = some (.insert table rows) := by
  have hText : (Statement.insertValues table values).toList = "INSERT INTO ".toList ++
      (table.toList ++ (" VALUES ".toList ++ (values.toList ++ [';']))) :=
    toList_five "INSERT INTO " table " VALUES " values ";"
  have hCreate (rest : List Char) :
      Header.dropMarker? "CREATE TABLE ".toList ("INSERT INTO ".toList ++ rest) = none := rfl
  have hDelete (rest : List Char) :
      Header.dropMarker? "DELETE FROM ".toList ("INSERT INTO ".toList ++ rest) = none := rfl
  have hHead : (" VALUES ".toList ++ (values.toList ++ [';'])).head? = some ' ' := rfl
  rw [hText, Change.read?, hCreate, hDelete, dropMarker?_append]
  simp only [readTable_name hName hHead, readAfter_append, List.dropLast_concat, hRows]

theorem Writes.read? {sql : String} {change : Change} (h : Writes sql change) :
    Change.read? sql.toList = some change := by
  cases h with
  | @createValidityTable header hName =>
    let rest := " (".toList ++ ((",".intercalate (Statement.columns header.epoch.isSome)).toList ++
      ",key TIMESTART (TIMESTART), key TIMEEND (TIMEEND));".toList)
    have hText : (Statement.createValidityTable "CREATE TABLE" header).toList =
        "CREATE TABLE ".toList ++ (header.validityTable.toList ++ rest) := by
      have hJoined : ("CREATE TABLE" ++ " " : String) = "CREATE TABLE " := rfl
      rw [Statement.createValidityTable, hJoined]
      exact toList_five "CREATE TABLE " header.validityTable " (" _ _
    have hTable : readTable (header.validityTable.toList ++ rest) = (header.validityTable, rest) :=
      readTable_name (isName_validityTable hName) rfl
    rw [hText, Change.read?, dropMarker?_append]
    exact congrArg (some ∘ Change.create ∘ Prod.fst) hTable
  | insertRows hName hNonempty hPlain =>
    obtain ⟨row, rest, rfl⟩ := List.exists_cons_of_ne_nil hNonempty
    have hRows : ∀ other ∈ row :: rest, ')' ∉ other.1.toList := fun other hOther hMem =>
      hPlain other hOther _ hMem (by simp)
    exact read?_insertValues hName (readRows_group _ row rest hRows)
  | insertValidityRow hName =>
    exact read?_insertValues (isName_validityTable hName) (readRows_validityRow _ _ _)
  | @deleteFrom table seqno hName =>
    have hText : (Statement.deleteFrom table seqno).toList = "DELETE FROM ".toList ++
        (table.toList ++ (" WHERE SEQNO=".toList ++ ((toString seqno).toList ++ []))) := by
      simp only [Statement.deleteFrom, String.toList_append, List.append_assoc, List.append_nil]
    have hCreate (rest : List Char) :
        Header.dropMarker? "CREATE TABLE ".toList ("DELETE FROM ".toList ++ rest) = none := rfl
    have hHead : (" WHERE SEQNO=".toList ++ ((toString seqno).toList ++ [])).head? = some ' ' := rfl
    have hNumber : readSeqno ((toString seqno).toList ++ []) = (seqno, []) :=
      readSeqno_toString seqno (by simp)
    rw [hText, Change.read?, hCreate, dropMarker?_append]
    simp only [readTable_name hName hHead, readAfter_append, hNumber]

theorem read?_describe (table : String) : Change.read? (describe table).toList = none := by
  have hText : (describe table).toList = "describe ".toList ++ table.toList :=
    String.toList_append
  rw [hText]
  rfl

def Change.isDelete : Change → Bool
  | .delete _ _ => true
  | .create _ | .insert _ _ => false

/-- Tables with the numbers that are left to hand out. The connection of the next `losses`
statements is lost before they are run; removing rows is spared. -/
structure Tables where
  store : Store
  numbers : List UInt32 := []
  losses : Nat := 0

namespace Tables

def take (change : Change) (tables : Tables) : Reply × Tables :=
  if tables.losses > 0 && !change.isDelete then
    ({ exitCode := 1, lines := ["Lost connection to MySQL server during query"] },
      { tables with losses := tables.losses - 1 })
  else
    match change.take? tables.store with
    | some store => ({}, { tables with store })
    | none => ({ exitCode := 1 }, tables)

/-- A statement that changes nothing asks for a table. -/
def execute (sql : String) (tables : Tables) : Except UpdateError Reply × Tables :=
  match Change.read? sql.toList with
  | some change => (.ok (tables.take change).1, (tables.take change).2)
  | none =>
    let table := String.ofList (readAfter (describe "") sql.toList)
    (.ok { exitCode := if (tables.store table).isSome then 0 else 1 }, tables)

def services : Services Tables where
  execute
  probe table _ := some (describe table)
  allocate table _ tables :=
    match tables.numbers with
    | [] => (.error (.allocation table "no numbers left"), tables)
    | seqno :: numbers => (.ok seqno, { tables with numbers })
  now tables := ("2020-01-01 00:00:00", tables)

theorem execute_of_writes {sql : String} {change : Change} (h : Writes sql change)
    (tables : Tables) :
    execute sql tables = (.ok (tables.take change).1, (tables.take change).2) := by
  rw [execute, h.read?]

theorem take_spec (change : Change) (tables : Tables) :
    if (tables.take change).1.succeeded then
      change.take? tables.store = some (tables.take change).2.store
    else (tables.take change).2.store = tables.store := by
  unfold take
  split
  · rfl
  · cases hTaken : change.take? tables.store <;> rfl

theorem atomic : Atomic services Tables.store where
  succeeded {sql change world reply after} hWrites hAnswer hSucceeded := by
    have hTake := take_spec change world
    rw [show services.execute sql world = execute sql world from rfl,
      execute_of_writes hWrites] at hAnswer
    cases hAnswer
    rw [hSucceeded] at hTake
    exact hTake
  failed {sql change world answer after} hWrites hAnswer hFailed := by
    have hTake := take_spec change world
    rw [show services.execute sql world = execute sql world from rfl,
      execute_of_writes hWrites] at hAnswer
    cases hAnswer
    rw [hFailed _ rfl] at hTake
    exact hTake
  probe {table seen sql} hProbe world := by
    cases hProbe
    simp only [services, execute, read?_describe]
  allocate table scope world := by
    obtain ⟨store, numbers, losses⟩ := world
    cases numbers <;> rfl
  now _ := rfl

theorem cleans (maxAttempts : Nat) :
    Backend.Cleans { services, maxAttempts, mode := .durable } Tables.store := by
  intro table seqno session hName hTable
  obtain ⟨rows, hRows⟩ := Option.isSome_iff_exists.mp hTable
  obtain ⟨left, hAttempts⟩ : ∃ left,
      ({ services, maxAttempts, mode := .durable } : Backend Tables).attempts = left + 1 :=
    Nat.exists_eq_add_of_le' (Nat.le_max_right maxAttempts 1)
  have hTake : (session.world.take (.delete table seqno)).1 = {} := by
    simp [take, Change.isDelete, Change.take?, hRows]
  rw [Backend.query, hAttempts]
  refine ⟨[], ?_⟩
  simp only [Backend.attempt, services, execute_of_writes (.deleteFrom hName), hTake]
  rfl

end Tables

namespace Statement

/-- A list of tuples is read back also if it is empty. -/
theorem readRows_tuples (seqno : UInt32) {rows : List String}
    (hRows : ∀ row ∈ rows, ')' ∉ row.toList) :
    readRows (",".intercalate (rows.zipIdx.map (indexedTuple seqno))).toList =
      rows.zipIdx.map (storedRow seqno) := by
  have hClosing : ∀ row ∈ rows.zipIdx, ')' ∉ row.1.toList := fun row hMem =>
    hRows row.1 (List.fst_mem_of_mem_zipIdx hMem)
  cases hList : rows.zipIdx with
  | nil => rfl
  | cons row rest => exact readRows_group seqno row rest (hList ▸ hClosing)

theorem storedRows_injective (seqno : UInt32) :
    Function.Injective fun rows : List String => rows.zipIdx.map (storedRow seqno) := by
  intro rows other h
  have hLength : rows.length = other.length := by simpa using congrArg List.length h
  refine List.ext_getElem hLength fun i hRow hOther => ?_
  have hStored := congrArg (fun stored => stored[i]?) h
  simpa [hRow, hOther, storedRow] using hStored

theorem intercalate_batches (seqno : UInt32) (rows : List String) (maxBytes : Nat) :
    ",".intercalate (batches maxBytes (rowTuples seqno rows)) =
      ",".intercalate (rowTuples seqno rows) := by
  obtain ⟨groups, hDivides, -, hBatches⟩ :=
    batches_divide maxBytes (indexedTuple seqno) (indexedTuple_ne_empty seqno) rows.zipIdx
  rw [rowTuples_eq_map, hBatches, intercalate_flatten _ hDivides.nonempty, hDivides.flatten]

/-- Rows without closing parentheses are determined by the statements that insert them, whatever the
limit. -/
theorem rows_of_insertRows {table : String} {seqno : UInt32} {rows other : List String}
    {maxBytes otherBytes : Nat} (hRows : ∀ row ∈ rows, ')' ∉ row.toList)
    (hOther : ∀ row ∈ other, ')' ∉ row.toList)
    (h : insertRows table seqno rows maxBytes = insertRows table seqno other otherBytes) :
    rows = other := by
  have hBatches : batches maxBytes (rowTuples seqno rows) =
      batches otherBytes (rowTuples seqno other) :=
    List.map_injective_iff.mpr (insertValues_injective table) h
  have hTuples : ",".intercalate (rowTuples seqno rows) =
      ",".intercalate (rowTuples seqno other) := by
    rw [← intercalate_batches seqno rows maxBytes, hBatches, intercalate_batches]
  rw [rowTuples_eq_map, rowTuples_eq_map] at hTuples
  apply storedRows_injective seqno
  calc rows.zipIdx.map (storedRow seqno)
    _ = readRows (",".intercalate (rows.zipIdx.map (indexedTuple seqno))).toList :=
      (readRows_tuples seqno hRows).symm
    _ = readRows (",".intercalate (other.zipIdx.map (indexedTuple seqno))).toList := by rw [hTuples]
    _ = other.zipIdx.map (storedRow seqno) := readRows_tuples seqno hOther

/-- The statements that insert rows lose none of them: their value lists are the joined tuples of
consecutive groups, and joined themselves they are all tuples. Rows without closing parentheses can
be told from the statements. -/
theorem insertRows_lossless (table : String) (seqno : UInt32) (rows : List String)
    (maxBytes : Nat) :
    (∃ groups, Divides rows.zipIdx groups ∧
      let values := groups.map fun group => ",".intercalate (group.map (indexedTuple seqno))
      insertRows table seqno rows maxBytes =
        values.map (fun value => "INSERT INTO " ++ table ++ " VALUES " ++ value ++ ";") ∧
      (∀ value ∈ values, value ≠ "") ∧
      ",".intercalate values = ",".intercalate (rowTuples seqno rows)) ∧
    insertRows table seqno [] maxBytes = [] ∧
    ∀ other otherBytes, (∀ row ∈ rows ++ other, ')' ∉ row.toList) →
      insertRows table seqno rows maxBytes = insertRows table seqno other otherBytes →
      rows = other := by
  refine ⟨?_, rfl, fun other otherBytes hRows => ?_⟩
  · obtain ⟨groups, hDivides, -, hInserts⟩ := insertRows_divides table seqno rows maxBytes
    refine ⟨groups, hDivides, by rw [hInserts, List.map_map]; rfl, fun value hValue => ?_, ?_⟩
    · obtain ⟨group, hGroup, rfl⟩ := List.mem_map.mp hValue
      obtain ⟨row, rest, rfl⟩ := List.exists_cons_of_ne_nil (hDivides.nonempty group hGroup)
      have hFull := intercalate_isEmpty (indexedTuple seqno) (indexedTuple_ne_empty seqno) row rest
      intro hEmpty
      rw [hEmpty] at hFull
      cases hFull
    · rw [intercalate_flatten _ hDivides.nonempty, hDivides.flatten, rowTuples_eq_map]
  · obtain ⟨hFirst, hSecond⟩ := List.forall_mem_append.mp hRows
    exact rows_of_insertRows hFirst hSecond

/-- Two limits under which three rows take two statements. -/
theorem insertRows_lossless_of_limits :
    (∀ row ∈ ["1,a", "2,b", "3"] ++ ["1,a", "2,b", "3"], ')' ∉ row.toList) ∧
      insertRows "DEMO" 7 ["1,a", "2,b", "3"] 19 = insertRows "DEMO" 7 ["1,a", "2,b", "3"] 26 ∧
      ["1,a", "2,b", "3"] = ["1,a", "2,b", "3"] := by
  have hRows : ∀ row ∈ ["1,a", "2,b", "3"] ++ ["1,a", "2,b", "3"], ')' ∉ row.toList := by
    decide +kernel
  have hSame : insertRows "DEMO" 7 ["1,a", "2,b", "3"] 19 =
      insertRows "DEMO" 7 ["1,a", "2,b", "3"] 26 := by decide +kernel
  exact ⟨hRows, hSame,
    (insertRows_lossless "DEMO" 7 ["1,a", "2,b", "3"] 19).2.2 _ 26 hRows hSame⟩

end Statement

end ValidityTables
