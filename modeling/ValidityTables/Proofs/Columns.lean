import ValidityTables.Proofs.Answers
import ValidityTables.Proofs.Numbering
import ValidityTables.Proofs.StatementReader

/-! # The columns of a table of validity rows

The statement that creates a table of validity rows names its columns, and the one that inserts a
validity row lists a value for each. Both can be read off the statements. They go together exactly
if the headers that they were made from agree on having an epoch: a rehearsal creates a table for
the first of its blocks, and the blocks after it bring their own headers.
-/

namespace ValidityTables

variable {σ : Type}

namespace Statement

/-- What stands between commas in the outer parentheses of a statement. -/
def listed (sql : String) : List String :=
  (((sql.toList.dropWhile (· != '(')).tail.dropLast.dropLast.splitOn ',').map
    (·.dropWhile (· == ' '))).map String.ofList

/-- The columns that a statement declares, which are listed with their types before the keys. -/
def declaredColumns (sql : String) : List String :=
  ((listed sql).filter fun piece => !"key ".toList.isPrefixOf piece.toList).map
    fun piece => String.ofList (piece.toList.takeWhile (· != ' '))

def suppliedValues (sql : String) : List String := listed sql

def columnNames (withEpoch : Bool) : List String :=
  ["SEQNO", "TIMESTART", "TIMEEND"] ++ (if withEpoch then ["EPOCH", "REALITY"] else []) ++
    ["DETECTORMASK", "SIMMASK", "TASK", "AGGREGATENO", "CREATIONDATE", "INSERTDATE"]

/-- What the statement that creates a table lists: the columns and then the keys. -/
def createdPieces (withEpoch : Bool) : List String :=
  columns withEpoch ++ ["key TIMESTART (TIMESTART)", " key TIMEEND (TIMEEND)"]

/-- What a validity row holds in a column. -/
def valueFor (header : Header) (seqno : UInt32) (inserted : String) : String → String
  | "SEQNO" => toString seqno
  | "TIMESTART" => quoted header.validFrom
  | "TIMEEND" => quoted header.validTo
  | "EPOCH" => (header.epoch.map toString).getD ""
  | "REALITY" => "0"
  | "DETECTORMASK" => quoted "1"
  | "SIMMASK" => quoted (toString header.simMask.value)
  | "TASK" => toString header.task
  | "AGGREGATENO" => toString header.aggregate
  | "CREATIONDATE" => quoted header.created
  | "INSERTDATE" => quoted inserted
  | _ => ""

theorem columnNames_length {withEpoch other : Bool} :
    (columnNames withEpoch).length = (columnNames other).length ↔ withEpoch = other := by
  cases withEpoch <;> cases other <;> decide

theorem validityValues_eq_map (header : Header) (seqno : UInt32) (inserted : String) :
    validityValues header seqno inserted =
      (columnNames header.epoch.isSome).map (valueFor header seqno inserted) := by
  unfold validityValues columnNames
  cases hEpoch : header.epoch <;> simp [valueFor, hEpoch]

theorem listed_of {sql : String} {front body : List Char} (hFront : '(' ∉ front)
    (h : sql.toList = front ++ '(' :: (body ++ [')', ';'])) :
    listed sql = ((body.splitOn ',').map (·.dropWhile (· == ' '))).map String.ofList := by
  have hOpen : ∀ c ∈ front, (c != '(') = true := by
    intro c hMem
    rw [bne_iff_ne]
    rintro rfl
    exact hFront hMem
  have hBody : (body ++ [')', ';']).dropLast.dropLast = body := by
    rw [show body ++ [')', ';'] = body ++ [')'] ++ [';'] by simp, List.dropLast_concat,
      List.dropLast_concat]
  rw [listed, h, (takeWhile_append_stop hOpen (by simp)).2, List.tail_cons, hBody]

theorem opening_not_mem {header : Header} (h : IsName header.table) :
    '(' ∉ header.validityTable.toList := by
  intro hMem
  have hWord := isName_validityTable h '(' hMem
  have hNot : Text.isWord '(' = false := by decide +kernel
  rw [hNot] at hWord
  cases hWord

theorem declaredColumns_create {header : Header} (h : IsName header.table) {keyword : String}
    (hKeyword : '(' ∉ keyword.toList) :
    declaredColumns (createValidityTable keyword header) = columnNames header.epoch.isSome := by
  have hFront : '(' ∉ keyword.toList ++ ' ' :: (header.validityTable.toList ++ [' ']) := by
    simp [hKeyword, opening_not_mem h]
  have hPieces : ",".intercalate (createdPieces header.epoch.isSome) =
      ",".intercalate (columns header.epoch.isSome) ++
        ",key TIMESTART (TIMESTART), key TIMEEND (TIMEEND)" := by
    rw [createdPieces, String.intercalate_append_of_ne_nil (by simp [columns]) (by simp),
      String.append_assoc]
    congr 1
  have hText : (createValidityTable keyword header).toList =
      keyword.toList ++ ' ' :: (header.validityTable.toList ++ [' ']) ++ '(' ::
        ((",".intercalate (createdPieces header.epoch.isSome)).toList ++ [')', ';']) := by
    have hEnd : ",key TIMESTART (TIMESTART), key TIMEEND (TIMEEND));".toList =
        ",key TIMESTART (TIMESTART), key TIMEEND (TIMEEND)".toList ++ [')', ';'] := rfl
    simp [createValidityTable, hPieces, hEnd]
  have hUndivided : ∀ piece ∈ (createdPieces header.epoch.isSome).map String.toList,
      ',' ∉ piece := by
    cases header.epoch.isSome <;> decide +kernel
  rw [declaredColumns, listed_of hFront hText, String.toList_intercalate,
    show ",".toList = [','] from rfl,
    List.splitOn_intercalate ',' hUndivided (by simp [createdPieces])]
  cases header.epoch.isSome <;> decide +kernel

/-- A value that is not split, and is kept when blanks in front of it are dropped. -/
structure IsValue (text : String) : Prop where
  undivided : ',' ∉ text.toList
  kept : text.toList.head? ≠ some ' '

theorem intercalate_blank (first : List Char) (rest : List (List Char)) :
    [',', ' '].intercalate (first :: rest) =
      [','].intercalate (first :: rest.map (' ' :: ·)) := by
  induction rest generalizing first with
  | nil => simp
  | cons next rest ih =>
    have hHead (more : List (List Char)) :
        [','].intercalate ((' ' :: next) :: more) = ' ' :: [','].intercalate (next :: more) := by
      cases more <;> simp
    rw [List.map_cons, List.intercalate_cons_cons, List.intercalate_cons_cons, ih, hHead]
    simp

theorem IsValue.dropWhile {text : String} (h : IsValue text) :
    text.toList.dropWhile (· == ' ') = text.toList := by
  have hKept := h.kept
  cases hText : text.toList with
  | nil => rfl
  | cons c rest =>
    rw [hText] at hKept
    have hBlank : (c == ' ') = false := by simpa using hKept
    rw [List.dropWhile_cons, hBlank]
    rfl

/-- Values that were listed are read back. -/
theorem split_values {first : String} {rest : List String}
    (h : ∀ value ∈ first :: rest, IsValue value) :
    (((", ".intercalate (first :: rest)).toList.splitOn ',').map (·.dropWhile (· == ' '))).map
      String.ofList = first :: rest := by
  have hList : (", ".intercalate (first :: rest)).toList =
      [','].intercalate (first.toList :: (rest.map String.toList).map (' ' :: ·)) := by
    rw [String.toList_intercalate, List.map_cons]
    exact intercalate_blank first.toList (rest.map String.toList)
  have hUndivided : ∀ piece ∈ first.toList :: (rest.map String.toList).map (' ' :: ·),
      ',' ∉ piece := by
    intro piece hPiece
    obtain rfl | hRest := List.mem_cons.mp hPiece
    · exact (h first List.mem_cons_self).undivided
    · rw [List.map_map] at hRest
      obtain ⟨value, hValue, rfl⟩ := List.mem_map.mp hRest
      simpa using (h value (List.mem_cons_of_mem _ hValue)).undivided
  rw [hList, List.splitOn_intercalate ',' hUndivided (by simp), List.map_cons, List.map_cons,
    (h first List.mem_cons_self).dropWhile, String.ofList_toList]
  congr 1
  rw [List.map_map, List.map_map, List.map_map]
  refine (List.map_congr_left fun value hValue => ?_).trans (List.map_id rest)
  have hDrop := (h value (List.mem_cons_of_mem _ hValue)).dropWhile
  simp [hDrop]

theorem isValue_quoted {text : String} (h : ',' ∉ text.toList) : IsValue (quoted text) := by
  constructor
  · simpa [quoted] using h
  · simp [quoted]

theorem isValue_numeral {text : String} (h : ∀ c ∈ text.toList, c = '-' ∨ c.isDigit = true) :
    IsValue text := by
  constructor
  · intro hMem
    obtain hMinus | hDigit := h _ hMem
    · cases hMinus
    · cases hDigit
  · intro hHead
    obtain hMinus | hDigit := h _ (List.mem_of_head? hHead)
    · cases hMinus
    · cases hDigit

theorem isValue_nat (n : Nat) : IsValue n.repr :=
  isValue_numeral fun _ hMem => .inr (isDigit_of_mem_repr hMem)

theorem isValue_int (i : Int) : IsValue (toString i) :=
  isValue_numeral fun _ => mem_toString_int

end Statement

/-- A plain timestamp: a date and a time of day, and nothing else. -/
structure IsTimestamp (text : String) : Prop where
  length : text.toList.length = timestampPattern.length
  classes : startsWithClasses timestampPattern text.toList = true

theorem mem_classes {classes : List (Char → Bool)} {cs : List Char}
    (hLength : cs.length = classes.length) (h : startsWithClasses classes cs = true) :
    ∀ c ∈ cs, ∃ p ∈ classes, p c = true := by
  induction classes generalizing cs with
  | nil =>
    rw [List.length_nil] at hLength
    simp [List.eq_nil_of_length_eq_zero hLength]
  | cons p rest ih =>
    cases cs with
    | nil => cases h
    | cons first cs =>
      rw [startsWithClasses, Bool.and_eq_true] at h
      intro c hMem
      obtain rfl | hLater := List.mem_cons.mp hMem
      · exact ⟨p, List.mem_cons_self, h.1⟩
      · obtain ⟨q, hQ, hClass⟩ := ih (by simpa using hLength) h.2 c hLater
        exact ⟨q, List.mem_cons_of_mem _ hQ, hClass⟩

theorem IsTimestamp.undivided {text : String} (h : IsTimestamp text) : ',' ∉ text.toList := by
  intro hMem
  obtain ⟨p, hP, hClass⟩ := mem_classes h.length h.classes ',' hMem
  have hNone : ∀ p ∈ timestampPattern, p ',' = false := by decide +kernel
  rw [hNone p hP] at hClass
  cases hClass

namespace Statement

theorem suppliedValues_insert {header : Header} (h : IsName header.table) {seqno : UInt32}
    {inserted : String} (hFrom : ',' ∉ header.validFrom.toList) (hTo : ',' ∉ header.validTo.toList)
    (hCreated : ',' ∉ header.created.toList) (hInserted : ',' ∉ inserted.toList) :
    suppliedValues (insertValidityRow header seqno inserted) =
      validityValues header seqno inserted := by
  have hFront : '(' ∉ "INSERT INTO ".toList ++
      (header.validityTable.toList ++ " VALUES ".toList) := by
    simp [opening_not_mem h]
  have hText : (insertValidityRow header seqno inserted).toList =
      "INSERT INTO ".toList ++ (header.validityTable.toList ++ " VALUES ".toList) ++ '(' ::
        ((", ".intercalate (validityValues header seqno inserted)).toList ++ [')', ';']) := by
    simp [insertValidityRow, insertValues]
  have hValues : ∀ value ∈ validityValues header seqno inserted, IsValue value := by
    have hSeqno : IsValue (toString seqno) := isValue_nat _
    have hMask : IsValue (quoted (toString header.simMask.value)) :=
      isValue_quoted (isValue_int _).undivided
    have hTask : IsValue (toString header.task) := isValue_int _
    have hAggregate : IsValue (toString header.aggregate) := isValue_nat _
    have hZero : IsValue "0" := isValue_nat 0
    rw [validityValues, List.forall_mem_append, List.forall_mem_append]
    refine ⟨⟨?_, ?_⟩, ?_⟩
    · simp [hSeqno, isValue_quoted hFrom, isValue_quoted hTo]
    · cases header.epoch with
      | none => simp
      | some epoch =>
        have hEpoch : IsValue (toString epoch) := isValue_nat _
        simp [hEpoch, hZero]
    · have hOne : IsValue (quoted "1") := isValue_quoted (by decide)
      simp only [List.forall_mem_cons, List.not_mem_nil, false_implies, implies_true, and_true]
      exact ⟨hOne, hMask, hTask, hAggregate, isValue_quoted hCreated, isValue_quoted hInserted⟩
  rw [suppliedValues, listed_of hFront hText]
  exact split_values hValues

theorem create_begins (header : Header) :
    "CREATE ".toList <+: (createValidityTable "CREATE TEMPORARY TABLE" header).toList := by
  simp only [createValidityTable, String.toList_append, List.append_assoc]
  exact List.IsPrefix.trans (by decide) (List.prefix_append _ _)

theorem not_insert_create (name : String) (header : Header) :
    ¬("INSERT INTO " ++ name ++ " VALUES ").toList <+:
      (createValidityTable "CREATE TEMPORARY TABLE" header).toList := by
  rintro ⟨tail, hText⟩
  have hHead := congrArg List.head? hText
  simp [createValidityTable] at hHead

theorem not_create_insert (name values : String) :
    ¬"CREATE ".toList <+: (insertValues name values).toList := by
  rintro ⟨tail, hText⟩
  have hHead := congrArg List.head? hText
  simp [insertValues] at hHead

/-- Rows go into another table than validity rows. -/
theorem not_insert_rows (header : Header) (values : String) :
    ¬("INSERT INTO " ++ header.validityTable ++ " VALUES ").toList <+:
      (insertValues header.table values).toList := by
  intro h
  simp only [Header.validityTable, validityTable, insertValues, String.toList_append,
    List.append_assoc, List.prefix_append_right_inj] at h
  obtain ⟨tail, hText⟩ := h
  have hHead := congrArg List.head? hText
  simp at hHead

end Statement

namespace Updater

variable {updater : Updater σ} {session : Session σ}

theorem exists_first {trials : List (Trial σ)} {trial : Trial σ} (hMem : trial ∈ trials) :
    ∃ before creator rest, trials = before ++ creator :: rest ∧
      creator.header.table = trial.header.table ∧
      Trial.triedFor before trial.header.table = false := by
  have hSome : (trials.find? fun other => other.header.table = trial.header.table).isSome := by
    rw [List.find?_isSome]
    exact ⟨trial, hMem, by simp⟩
  obtain ⟨creator, hCreator⟩ := Option.isSome_iff_exists.mp hSome
  obtain ⟨hTable, before, rest, hTrials, hBefore⟩ := List.find?_eq_some_iff_append.mp hCreator
  refine ⟨before, creator, rest, hTrials, by simpa using hTable, ?_⟩
  simpa [Trial.triedFor] using hBefore

/-- Only one statement of a trial creates a table, and only one inserts a validity row. -/
theorem issued (hMode : updater.backend.mode = .ephemeral) {trial : Trial σ} {sql : String}
    {answer : Except UpdateError Reply}
    (hIssued : Call.execute sql answer ∈ trial.calls updater.backend) :
    ("CREATE ".toList <+: sql.toList →
      sql = Statement.createValidityTable "CREATE TEMPORARY TABLE" trial.header) ∧
    (("INSERT INTO " ++ trial.header.validityTable ++ " VALUES ").toList <+: sql.toList →
      ∃ seqno, sql = Statement.insertValidityRow trial.header seqno trial.inserted) := by
  obtain ⟨⟨events, hRealizes, hTries⟩, -⟩ := trial.tries updater.backend hMode
  obtain ⟨_, _, hCall, hSql⟩ := hRealizes.statements hTries.statements _ hIssued
  cases hCall
  rw [Backend.createKeyword, hMode] at hSql
  obtain ⟨-, rfl⟩ | ⟨values, rfl⟩ | rfl := hSql
  · exact ⟨fun _ => rfl, fun h => absurd h (Statement.not_insert_create _ _)⟩
  · exact ⟨fun h => absurd h (Statement.not_create_insert _ _),
      fun h => absurd h (Statement.not_insert_rows _ _)⟩
  · exact ⟨fun h => absurd h (Statement.not_create_insert _ _), fun _ => ⟨_, rfl⟩⟩

/-- Before a trial inserts a row, the table of validity rows was created for the first trial of the
same table. -/
theorem created_before (hMode : updater.backend.mode = .ephemeral)
    (hFresh : session.counters = .empty) {blocks : List Block} {operations : List Operation}
    {before rest : List (Trial σ)} {trial : Trial σ}
    (hTrials : updater.trials blocks session operations = before ++ trial :: rest)
    {front later : List Call} {name values : String} {answer : Except UpdateError Reply}
    (hCalls : trial.calls updater.backend =
      front ++ .execute (Statement.insertValues name values) answer :: later) :
    ∃ creator ∈ before ++ [trial], creator.header.table = trial.header.table ∧
      ∃ created, Call.execute
        (Statement.createValidityTable "CREATE TEMPORARY TABLE" creator.header) created ∈
          before.flatMap (Trial.calls updater.backend) ++ front := by
  have hKeyword : updater.backend.createKeyword = "CREATE TEMPORARY TABLE" := by
    rw [Backend.createKeyword, hMode]
  obtain ⟨earlier, creator, after, hSplit, hTable, hFirst⟩ :=
    exists_first (List.mem_append_right before (List.mem_singleton_self trial))
  have hAll : updater.trials blocks session operations =
      earlier ++ creator :: (after ++ rest) := by
    rw [hTrials, List.append_cons, hSplit, List.append_assoc, List.cons_append]
  obtain ⟨created, more, hCreates⟩ := first_creates hMode hFresh hAll (hTable ▸ hFirst)
  rw [hKeyword] at hCreates
  refine ⟨creator, by simp [hSplit], hTable, created, ?_⟩
  -- Either the trial is the first one itself, which creates the table before anything else, or the
  -- first one is among those before it.
  obtain rfl | ⟨between, last, rfl⟩ := after.eq_nil_or_concat
  · obtain ⟨rfl, hLast⟩ := List.append_inj' hSplit rfl
    cases hLast
    rw [hCalls] at hCreates
    cases front with
    | nil => cases hCreates
    | cons call front =>
      cases hCreates
      exact List.mem_append_right _ List.mem_cons_self
  · rw [List.concat_eq_append, ← List.cons_append, ← List.append_assoc] at hSplit
    obtain ⟨rfl, -⟩ := List.append_inj' hSplit rfl
    refine List.mem_append_left _ (List.mem_flatMap.mpr ⟨creator, by simp, ?_⟩)
    rw [hCreates]
    exact List.mem_cons_self

/-- In a program over temporary tables, the table of validity rows was created before a validity row
is inserted. The row has a value for each of the columns exactly if both headers have an epoch, or
neither, and then the values are those of the columns in their order. -/
theorem performAll_columns (hMode : updater.backend.mode = .ephemeral)
    (hFresh : session.counters = .empty) {operations : List Operation}
    {before rest : List (Trial σ)} {trial : Trial σ}
    (hTrials : updater.trials [] session operations = before ++ trial :: rest)
    (hFrom : IsTimestamp trial.header.validFrom) (hTo : IsTimestamp trial.header.validTo)
    (hCreated : IsTimestamp trial.header.created) (hInserted : IsTimestamp trial.inserted)
    {front later : List Call} {sql : String} {answer : Except UpdateError Reply}
    (hCalls : trial.calls updater.backend = front ++ .execute sql answer :: later)
    (hInsert : ("INSERT INTO " ++ trial.header.validityTable ++ " VALUES ").toList <+: sql.toList) :
    (∃ creator ∈ before ++ [trial], creator.header.table = trial.header.table ∧
      ∃ created,
        let create := Call.execute
          (Statement.createValidityTable "CREATE TEMPORARY TABLE" creator.header) created
        create ∈ before.flatMap (Trial.calls updater.backend) ++ front ∧
        [create, .execute sql answer].Sublist (updater.calls [] operations session)) ∧
    ∃ seqno, sql = Statement.insertValidityRow trial.header seqno trial.inserted ∧
      ∀ creator ∈ updater.trials [] session operations,
      creator.header.table = trial.header.table →
      ∀ create created, Call.execute create created ∈ creator.calls updater.backend →
      "CREATE ".toList <+: create.toList →
      let columns := Statement.declaredColumns create
      let values := Statement.suppliedValues sql
      (values.length = columns.length ↔
        trial.header.epoch.isSome = creator.header.epoch.isSome) ∧
      (trial.header.epoch.isSome = creator.header.epoch.isSome →
        values = columns.map (Statement.valueFor trial.header seqno trial.inserted)) := by
  have hName {other : Trial σ} (hMem : other ∈ updater.trials [] session operations) :
      IsName other.header.table := by
    obtain ⟨line, hParse⟩ := @trials_begun _ updater [] nofun _ _ _ hMem
    exact Header.parse_isName hParse
  have hIssued : Call.execute sql answer ∈ trial.calls updater.backend := by simp [hCalls]
  obtain ⟨seqno, rfl⟩ := (issued hMode hIssued).2 hInsert
  constructor
  · obtain ⟨creator, hCreator, hTable, created, hBefore⟩ :=
      created_before hMode hFresh hTrials hCalls
    refine ⟨creator, hCreator, hTable, created, hBefore, ?_⟩
    refine List.Sublist.trans ?_ (trials_calls updater [] operations session)
    rw [hTrials, List.flatMap_append, List.flatMap_cons, hCalls, List.append_assoc,
      ← List.append_assoc]
    exact (List.singleton_sublist.mpr hBefore).append (List.singleton_sublist.mpr (by simp))
  · refine ⟨seqno, rfl, fun creator hCreator _ create created hCreate hPrefix => ?_⟩
    obtain rfl := (issued hMode hCreate).1 hPrefix
    have hTrial : trial ∈ updater.trials [] session operations := by simp [hTrials]
    rw [Statement.suppliedValues_insert (hName hTrial) hFrom.undivided hTo.undivided
      hCreated.undivided hInserted.undivided, Statement.validityValues_eq_map,
      Statement.declaredColumns_create (hName hCreator) (by decide)]
    refine ⟨?_, fun hSame => by rw [hSame]⟩
    rw [List.length_map, Statement.columnNames_length]

def epochLine : String := UpdateFile.commentedHeader ++ " 0 epoch=5"

def epochHeader : Header := { Block.demoHeader with epoch := some 5 }

/-- A file with two blocks for one table. -/
def twoBlocks (first second : String) : List Operation :=
  [.applyFile .locally (.ok ([first, "1,2", second, "3,4"].map .ok))]

def printingScript : Script where
  client := .echo
  date := "2020-01-01 00:00:00"

theorem performAll_columns_alike :
    let session : Session Script := { world := printingScript }
    let operations := twoBlocks UpdateFile.commentedHeader UpdateFile.commentedHeader
    let create := Statement.createValidityTable "CREATE TEMPORARY TABLE" Block.demoHeader
    let insert := Statement.insertValidityRow Block.demoHeader 2 "2020-01-01 00:00:00"
    (∃ created answer, [Call.execute create created, .execute insert answer].Sublist
      (rehearsing.calls [] operations session)) ∧
    (Statement.suppliedValues insert).length = (Statement.declaredColumns create).length := by
  intro session operations create insert
  have hRuns : (rehearsing.trials [] session operations).map (fun trial =>
      (trial.header, trial.inserted, statements (trial.calls rehearsing.backend))) =
        [(Block.demoHeader, "2020-01-01 00:00:00", [create, "INSERT INTO DEMO VALUES (1,1,1,2);",
            Statement.insertValidityRow Block.demoHeader 1 "2020-01-01 00:00:00"]),
          (Block.demoHeader, "2020-01-01 00:00:00", ["INSERT INTO DEMO VALUES (2,1,3,4);",
            insert])] := by decide +kernel
  obtain ⟨first, second, hTrials⟩ := List.length_eq_two.mp
    ((List.length_map _).symm.trans (congrArg List.length hRuns))
  rw [hTrials] at hRuns
  simp only [List.map_cons, List.map_nil, List.cons.injEq, Prod.mk.injEq, and_true] at hRuns
  obtain ⟨⟨hHeader, -, hFirst⟩, hHeaderSecond, hInserted, hSecond⟩ := hRuns
  obtain ⟨created, hCreated⟩ := mem_statements.mp
    (show create ∈ statements (first.calls rehearsing.backend) by simp [hFirst])
  obtain ⟨answer, hAnswer⟩ := mem_statements.mp
    (show insert ∈ statements (second.calls rehearsing.backend) by simp [hSecond])
  obtain ⟨front, later, hCalls⟩ := List.append_of_mem hAnswer
  have hStamp : IsTimestamp "2001-01-01 00:00:00" ∧ IsTimestamp "2002-01-01 00:00:00" ∧
      IsTimestamp "2020-01-01 00:00:00" := by
    refine ⟨⟨?_, ?_⟩, ⟨?_, ?_⟩, ⟨?_, ?_⟩⟩ <;> decide +kernel
  obtain ⟨⟨creator, hCreator, -, opened, -, hRun⟩, seqno, -, hColumns⟩ :=
    @performAll_columns _ rehearsing session rfl rfl operations [first] [] second hTrials
      (by rw [hHeaderSecond]; exact hStamp.1) (by rw [hHeaderSecond]; exact hStamp.2.1)
      (by rw [hHeaderSecond]; exact hStamp.1) (by rw [hInserted]; exact hStamp.2.2)
      front later insert answer hCalls (by rw [hHeaderSecond]; decide +kernel)
  constructor
  · have hCreatorHeader : creator.header = Block.demoHeader := by
      obtain rfl | rfl : creator = first ∨ creator = second := by simpa using hCreator
      · exact hHeader
      · exact hHeaderSecond
    rw [hCreatorHeader] at hRun
    exact ⟨opened, answer, hRun⟩
  · have hSame := hColumns first (by simp [hTrials]) (by rw [hHeader, hHeaderSecond]) create
      created hCreated (Statement.create_begins _)
    exact hSame.1.mpr (by rw [hHeader, hHeaderSecond])

/-- A validity row of a header with an epoch does not fit into a table that was created for a header
without one. -/
theorem performAll_columns_mixed :
    let issued := statements (rehearsing.calls []
      (twoBlocks UpdateFile.commentedHeader epochLine) { world := printingScript })
    ¬∀ create ∈ issued, "CREATE ".toList <+: create.toList →
      ∀ insert ∈ issued, "INSERT INTO DEMOVLD VALUES ".toList <+: insert.toList →
        (Statement.suppliedValues insert).length = (Statement.declaredColumns create).length := by
  intro issued hFits
  have hIssued : issued =
      [Statement.createValidityTable "CREATE TEMPORARY TABLE" Block.demoHeader,
        "INSERT INTO DEMO VALUES (1,1,1,2);",
        Statement.insertValidityRow Block.demoHeader 1 "2020-01-01 00:00:00",
        "INSERT INTO DEMO VALUES (2,1,3,4);",
        Statement.insertValidityRow epochHeader 2 "2020-01-01 00:00:00"] := by decide +kernel
  have hLengths := hFits (Statement.createValidityTable "CREATE TEMPORARY TABLE" Block.demoHeader)
    (by simp [hIssued]) (Statement.create_begins _)
    (Statement.insertValidityRow epochHeader 2 "2020-01-01 00:00:00") (by simp [hIssued])
    (by decide +kernel)
  have hParse : Header.parse UpdateFile.commentedHeader = .ok Block.demoHeader := by decide +kernel
  have hName : IsName Block.demoHeader.table := Header.parse_isName hParse
  have hUndivided : ',' ∉ "2001-01-01 00:00:00".toList ∧ ',' ∉ "2002-01-01 00:00:00".toList ∧
      ',' ∉ "2020-01-01 00:00:00".toList := by decide +kernel
  rw [@Statement.suppliedValues_insert epochHeader hName 2 _ hUndivided.1 hUndivided.2.1
    hUndivided.1 hUndivided.2.2, Statement.validityValues_eq_map, List.length_map,
    @Statement.declaredColumns_create Block.demoHeader hName _ (by decide),
    Statement.columnNames_length] at hLengths
  cases hLengths

end Updater

end ValidityTables
