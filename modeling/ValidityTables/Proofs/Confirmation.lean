import ValidityTables.CommandLine
import ValidityTables.Proofs.Authority

/-! # Nothing is dropped without a confirmation

The answer to a question is the first line of the input that is a yes or a no, unless the input ends
or cannot be read before. Where the store is an authorising one there are two questions, and the
second is answered by the lines that the first one has left. What a command sends before it drops
anything is at most the probe by which it finds that out.
-/

namespace ValidityTables

namespace CommandLine

variable {σ α : Type}

section Answers

def words : Bool → List String
  | true => ["y", "yes"]
  | false => ["n", "no"]

/-- The text of a line, without blanks around it and in small letters. -/
def plainly (cs : List Char) : String := String.ofList ((Text.trim cs).map Char.toLower)

def Says (answer : Bool) (line : List UInt8) : Prop :=
  ∃ cs, Text.Utf8.decode? line = some cs ∧ plainly cs ∈ words answer

/-- A line that can be read and is neither a yes nor a no. -/
def Unclear (line : List UInt8) : Prop :=
  ∃ cs, Text.Utf8.decode? line = some cs ∧ ∀ answer, plainly cs ∉ words answer

/-- What lines answer to a question, and the lines after the answer. -/
inductive Answer (lines : List (List UInt8)) : Except IoFault Bool → List (List UInt8) → Prop
  | said {unclear : List (List UInt8)} {line : List UInt8} {unread : List (List UInt8)}
      {answer : Bool} : lines = unclear ++ line :: unread → (∀ other ∈ unclear, Unclear other) →
      Says answer line → Answer lines (.ok answer) unread
  /-- The end of the input is a refusal. -/
  | silent : (∀ line ∈ lines, Unclear line) → Answer lines (.ok false) []
  | unreadable {unclear : List (List UInt8)} {line : List UInt8} {unread : List (List UInt8)} :
      lines = unclear ++ line :: unread → (∀ other ∈ unclear, Unclear other) →
      Text.Utf8.decode? line = none → Answer lines (.error .invalidUtf8) unread

theorem decision?_eq_some {cs : List Char} {answer : Bool} :
    decision? cs = some answer ↔ plainly cs ∈ words answer := by
  unfold decision? plainly
  generalize String.ofList _ = word
  cases answer <;> simp only [words, List.mem_cons, List.not_mem_nil, or_false] <;> split <;>
    simp_all

theorem decision?_eq_none {cs : List Char} :
    decision? cs = none ↔ ∀ answer, plainly cs ∉ words answer := by
  simp only [Option.eq_none_iff_forall_ne_some, ne_eq, decision?_eq_some]

theorem confirmFrom_unclear {unclear : List (List UInt8)} (h : ∀ line ∈ unclear, Unclear line)
    (asked : Nat) (rest : List (List UInt8)) :
    confirmFrom asked (unclear ++ rest) = confirmFrom (asked + unclear.length) rest := by
  induction unclear generalizing asked with
  | nil => rfl
  | cons line unclear ih =>
    obtain ⟨⟨cs, hDecoded, hWords⟩, hOthers⟩ := List.forall_mem_cons.mp h
    rw [List.cons_append, confirmFrom]
    simp only [hDecoded, decision?_eq_none.mpr hWords]
    rw [ih hOthers, List.length_cons, Nat.add_assoc, Nat.add_comm 1]

theorem Answer.after {line : List UInt8} {lines unread : List (List UInt8)}
    {answer : Except IoFault Bool} (hLine : Unclear line) (h : Answer lines answer unread) :
    Answer (line :: lines) answer unread := by
  cases h with
  | said hLines hUnclear hSays =>
    exact .said (congrArg (line :: ·) hLines) (List.forall_mem_cons.mpr ⟨hLine, hUnclear⟩) hSays
  | silent hUnclear => exact .silent (List.forall_mem_cons.mpr ⟨hLine, hUnclear⟩)
  | unreadable hLines hUnclear hBroken =>
    exact .unreadable (congrArg (line :: ·) hLines) (List.forall_mem_cons.mpr ⟨hLine, hUnclear⟩)
      hBroken

theorem confirmFrom_answer (asked : Nat) (lines : List (List UInt8)) :
    Answer lines (confirmFrom asked lines).answer (confirmFrom asked lines).unread := by
  induction lines generalizing asked with
  | nil => exact .silent (by simp)
  | cons line unread ih =>
    rw [confirmFrom]
    cases hDecoded : Text.Utf8.decode? line with
    | none => exact .unreadable (List.nil_append _).symm (by simp) hDecoded
    | some cs =>
      simp only
      cases hDecision : decision? cs with
      | none => exact (ih (asked + 1)).after ⟨cs, hDecoded, decision?_eq_none.mp hDecision⟩
      | some answer =>
        exact .said (List.nil_append _).symm (by simp)
          ⟨cs, hDecoded, decision?_eq_some.mp hDecision⟩

/-- A question is answered in exactly one way. -/
theorem answer_iff {lines unread : List (List UInt8)} {answer : Except IoFault Bool} :
    Answer lines answer unread ↔
      (confirm lines).answer = answer ∧ (confirm lines).unread = unread := by
  constructor
  · intro h
    unfold confirm
    cases h with
    | @said unclear line _ answer hLines hUnclear hSays =>
      obtain ⟨cs, hDecoded, hWord⟩ := hSays
      rw [hLines, confirmFrom_unclear hUnclear, confirmFrom]
      simp only [hDecoded, decision?_eq_some.mpr hWord, and_self]
    | silent hUnclear =>
      rw [← List.append_nil lines, confirmFrom_unclear hUnclear]
      exact ⟨rfl, rfl⟩
    | unreadable hLines hUnclear hBroken =>
      rw [hLines, confirmFrom_unclear hUnclear, confirmFrom]
      simp only [hBroken, and_self]
  · rintro ⟨rfl, rfl⟩
    exact confirmFrom_answer 0 lines

end Answers

section Dialogue

variable (console : Console σ) (updater : Updater σ) (name : String) (session : Session σ)

/-- Texts were printed, and nothing else has changed. -/
def Prints (before after : Session σ) : Prop :=
  ∃ texts : List String, after = { before with
    world := texts.foldl (fun world text => console.print text world) before.world }

/-- What comes of the questions whether to drop a table, and whether the check between them was
made, whose result is `check`. -/
inductive Confirms (lines : List (List UInt8)) (check : Except UpdateError Bool) :
    Except Failure Bool → Bool → Prop
  | refused {unread : List (List UInt8)} : Answer lines (.ok false) unread →
      Confirms lines check (.ok false) false
  | unreadable {unread : List (List UInt8)} {fault : IoFault} : Answer lines (.error fault) unread →
      Confirms lines check (.error [fault.message]) false
  | unchecked {unread : List (List UInt8)} {e : UpdateError} : Answer lines (.ok true) unread →
      check = .error e → Confirms lines check (.error e.causes) true
  | unauthorised {unread : List (List UInt8)} : Answer lines (.ok true) unread →
      check = .ok false → Confirms lines check (.ok true) true
  | authorised {unread rest : List (List UInt8)} {answer : Bool} : Answer lines (.ok true) unread →
      check = .ok true → Answer unread (.ok answer) rest → Confirms lines check (.ok answer) true
  | unreadableAgain {unread rest : List (List UInt8)} {fault : IoFault} :
      Answer lines (.ok true) unread → check = .ok true → Answer unread (.error fault) rest →
      Confirms lines check (.error [fault.message]) true

variable {console} in
theorem Prints.trans {before middle after : Session σ} (h : Prints console before middle)
    (hLater : Prints console middle after) : Prints console before after := by
  obtain ⟨texts, rfl⟩ := h
  obtain ⟨more, rfl⟩ := hLater
  exact ⟨texts ++ more, by rw [List.foldl_append]⟩

theorem Prints.refl : Prints console session session := ⟨[], rfl⟩

theorem say_prints (text : String) : Prints console session (say console text session).2 :=
  ⟨[text], rfl⟩

theorem ask_snd (question : String) (lines : List (List UInt8)) :
    (ask console question lines session).2 =
      (say console (String.join (List.replicate (confirm lines).asked (prompt question)))
        session).2 := by
  rw [ask, Action.bind_apply]
  cases (confirm lines).answer <;> rfl

/-- A question prints its prompts and takes its answer from the lines, and nothing else. -/
theorem ask_answers (question : String) (lines : List (List UInt8)) :
    ∃ answer unread, Answer lines answer unread ∧
      (ask console question lines session).1 =
        (answer.map fun said => (said, unread)).mapError (fun fault => [fault.message]) ∧
      Prints console session (ask console question lines session).2 := by
  refine ⟨(confirm lines).answer, (confirm lines).unread, answer_iff.mpr ⟨rfl, rfl⟩, ?_, ?_⟩
  · rw [ask, Action.bind_apply]
    cases (confirm lines).answer <;> rfl
  · rw [ask_snd]
    exact say_prints console session _

theorem askToDrop_answers :
    ∃ answer unread, Answer (Text.byteLines (console.takeInput session.world).1) answer unread ∧
      (askToDrop console name session).1 =
        (answer.map fun said => (said, unread)).mapError (fun fault => [fault.message]) := by
  obtain ⟨answer, unread, hAnswer, hResult, -⟩ := ask_answers console
    { session with world := (console.takeInput session.world).2 }
    ("Do you really want to drop table " ++ name ++ "?")
    (Text.byteLines (console.takeInput session.world).1)
  exact ⟨answer, unread, hAnswer, hResult⟩

theorem askAgain_confirms {lines unread : List (List UInt8)}
    (hFirst : Answer lines (.ok true) unread) :
    Confirms lines (updater.isAuthorising session).1
        (askAgain console updater name unread session).1 true ∧
      Prints console (updater.isAuthorising session).2
        (askAgain console updater name unread session).2 := by
  rw [askAgain, Action.bind_apply, within]
  rcases updater.isAuthorising session with ⟨e | _ | _, checked⟩
  · exact ⟨.unchecked hFirst rfl, .refl console checked⟩
  · exact ⟨.unauthorised hFirst rfl, .refl console checked⟩
  · obtain ⟨answer, rest, hAnswer, hSecond, hPrints⟩ := ask_answers console checked
      ("This is an authorising database, do you REALLY want to drop table " ++ name ++ "?") unread
    simp only [Bool.not_true, Bool.false_eq_true, if_false, Action.bind_apply]
    generalize ask console _ unread checked = asking at hSecond hPrints ⊢
    obtain ⟨second, after⟩ := asking
    obtain rfl : second = _ := hSecond
    rcases answer with fault | said
    · exact ⟨.unreadableAgain hFirst rfl hAnswer, hPrints⟩
    · exact ⟨.authorised hFirst rfl hAnswer, hPrints⟩

theorem confirmDrop_confirms :
    let asked := (askToDrop console name session).2
    let confirmed := confirmDrop console updater name session
    ∃ checked,
      Confirms (Text.byteLines (console.takeInput session.world).1)
        (updater.isAuthorising asked).1 confirmed.1 checked ∧
      Prints console (if checked then (updater.isAuthorising asked).2 else asked) confirmed.2 := by
  obtain ⟨answer, unread, hAnswer, hFirst⟩ := askToDrop_answers console name session
  rw [confirmDrop, Action.bind_apply]
  generalize askToDrop console name session = asking at hFirst ⊢
  obtain ⟨first, asked⟩ := asking
  obtain rfl : first = _ := hFirst
  rcases answer with fault | _ | _
  · exact ⟨false, .unreadable hAnswer, .refl console asked⟩
  · exact ⟨false, .refused hAnswer, .refl console asked⟩
  · exact ⟨true, askAgain_confirms console updater name asked hAnswer⟩

theorem forM_say (text : String → String) (tables : List String) :
    ∃ after, (tables.forM fun table => say console (text table)) session = (.ok (), after) ∧
      Prints console session after := by
  induction tables generalizing session with
  | nil => exact ⟨session, rfl, .refl console session⟩
  | cons table rest ih =>
    have hFirst := say_prints console session (text table)
    obtain ⟨after, hRest, hPrints⟩ := ih (say console (text table) session).2
    exact ⟨after, hRest, hFirst.trans hPrints⟩

variable {console updater name session}

theorem dropTable_confirmed_apply (h : (confirmDrop console updater name session).1 = .ok true) :
    let dropped := updater.dropTable name (confirmDrop console updater name session).2
    let ended := dropTable console updater name session
    ended.1 = (dropped.1.map fun _ => ()).mapError UpdateError.causes ∧
      Prints console dropped.2 ended.2 := by
  rw [dropTable, Action.bind_apply]
  generalize confirmDrop console updater name session = confirmation at h ⊢
  obtain ⟨answer, confirmed⟩ := confirmation
  obtain rfl : answer = _ := h
  simp only [if_true, Action.bind_apply, within]
  rcases updater.dropTable name confirmed with ⟨e | report, dropped⟩
  · exact ⟨rfl, .refl console dropped⟩
  · obtain ⟨middle, hDropped, hFirst⟩ := forM_say console dropped
      (fun table => "Dropped table " ++ table ++ "\n") report.dropped
    obtain ⟨after, hCleared, hSecond⟩ := forM_say console middle
      (fun table => "Removed " ++ name ++ " entries from " ++ table ++ "\n")
      report.clearedSequenceTables
    simp only [hDropped, hCleared]
    exact ⟨rfl, hFirst.trans hSecond⟩

theorem dropTable_unconfirmed_apply
    (h : (confirmDrop console updater name session).1 ≠ .ok true) :
    let confirmed := confirmDrop console updater name session
    let ended := dropTable console updater name session
    ended.1 = (confirmed.1.map fun _ => ()) ∧ Prints console confirmed.2 ended.2 := by
  rw [dropTable, Action.bind_apply]
  generalize confirmDrop console updater name session = confirmation at h ⊢
  obtain ⟨failure | _ | _, confirmed⟩ := confirmation
  · exact ⟨rfl, .refl console confirmed⟩
  · exact ⟨rfl, say_prints console confirmed _⟩
  · exact absurd rfl h

end Dialogue

section Verdict

variable (lines : List (List UInt8)) (check : Except UpdateError Bool)

/-- A yes to the first question, and to the second one where the store is an authorising one. -/
def Consents : Prop :=
  ∃ unread, Answer lines (.ok true) unread ∧
    (check = .ok false ∨ check = .ok true ∧ ∃ rest, Answer unread (.ok true) rest)

/-- A no to one of the questions. -/
def Declines : Prop :=
  ∃ unread, Answer lines (.ok false) unread ∨
    Answer lines (.ok true) unread ∧ check = .ok true ∧ ∃ rest, Answer unread (.ok false) rest

/-- A line that cannot be read before the answer to a question, or a check that fails. -/
def Breaks : Prop :=
  ∃ unread, Answer lines (.error .invalidUtf8) unread ∨
    Answer lines (.ok true) unread ∧ ((∃ e, check = .error e) ∨
      check = .ok true ∧ ∃ rest, Answer unread (.error .invalidUtf8) rest)

variable {lines check} {result other : Except Failure Bool} {checked known : Bool}

theorem Confirms.unique (h : Confirms lines check result checked)
    (hOther : Confirms lines check other known) : result = other := by
  -- Both read the same answers, so either they are the same case or the two cases exclude each
  -- other.
  cases h <;> cases hOther <;> simp_all [answer_iff]

theorem Confirms.consents (h : Confirms lines check result checked) :
    result = .ok true ↔ Consents lines check := by
  constructor
  · rintro rfl
    cases h with
    | unauthorised hFirst hCheck => exact ⟨_, hFirst, .inl hCheck⟩
    | authorised hFirst hCheck hSecond => exact ⟨_, hFirst, .inr ⟨hCheck, _, hSecond⟩⟩
  · rintro ⟨unread, hFirst, hCheck | ⟨hCheck, rest, hSecond⟩⟩
    · exact h.unique (.unauthorised hFirst hCheck)
    · exact h.unique (.authorised hFirst hCheck hSecond)

theorem Confirms.of_declines (h : Confirms lines check result checked)
    (hDeclines : Declines lines check) : result = .ok false := by
  obtain ⟨unread, hFirst | ⟨hFirst, hCheck, rest, hSecond⟩⟩ := hDeclines
  · exact h.unique (.refused hFirst)
  · exact h.unique (.authorised hFirst hCheck hSecond)

theorem Confirms.of_breaks (h : Confirms lines check result checked)
    (hBreaks : Breaks lines check) : ∃ failure, result = .error failure := by
  obtain ⟨unread, hFirst | ⟨hFirst, ⟨e, hCheck⟩ | ⟨hCheck, rest, hSecond⟩⟩⟩ := hBreaks
  · exact ⟨_, h.unique (.unreadable hFirst)⟩
  · exact ⟨_, h.unique (.unchecked hFirst hCheck)⟩
  · exact ⟨_, h.unique (.unreadableAgain hFirst hCheck hSecond)⟩

theorem Confirms.checked_of_ok (h : Confirms lines check (.ok true) checked) : checked = true := by
  cases h <;> rfl

end Verdict

/-- Printing and reading are no calls of services. -/
def Console.recorded (console : Console σ) : Console (Recorded σ) where
  print text recorded := { recorded with world := console.print text recorded.world }
  takeInput recorded :=
    let (input, world) := console.takeInput recorded.world
    (input, { recorded with world })

section Recorded

variable (console : Console σ) (updater : Updater σ) (name : String)

theorem Prints.calls {console : Console σ} {before after : Session (Recorded σ)}
    (h : Prints console.recorded before after) : after.world.calls = before.world.calls := by
  obtain ⟨texts, rfl⟩ := h
  have hWorld (recorded : Recorded σ) :
      (texts.foldl (fun world text => console.recorded.print text world) recorded).calls =
        recorded.calls := by
    induction texts generalizing recorded with
    | nil => rfl
    | cons text rest ih => exact ih (console.recorded.print text recorded)
  exact hWorld before.world

theorem within_mirrors {recorded : Action (Recorded σ) α} {plain : Action σ α}
    (h : Mirrors recorded plain) (contexts : List String) :
    Mirrors (within contexts recorded) (within contexts plain) := by
  intro session
  rw [within, within, h session]
  rcases recorded session with ⟨_ | _, _⟩ <;> rfl

theorem ask_mirrors (question : String) (lines : List (List UInt8)) :
    Mirrors (ask console.recorded question lines) (ask console question lines) := by
  intro session
  rw [ask, ask, Action.bind_apply, Action.bind_apply]
  cases (confirm lines).answer <;> rfl

theorem askToDrop_mirrors : Mirrors (askToDrop console.recorded name) (askToDrop console name) :=
  fun session => ask_mirrors console _ _
    { session with world := (console.recorded.takeInput session.world).2 }

theorem askAgain_mirrors (unread : List (List UInt8)) :
    Mirrors (askAgain console.recorded updater.recorded name unread)
      (askAgain console updater name unread) := by
  refine mirrors_iff.mpr
    ((mirrors_iff.mp (within_mirrors updater.isAuthorising_mirrors [])).step fun found => ?_)
  cases found with
  | false => exact .ok true
  | true => exact (mirrors_iff.mp (ask_mirrors console _ unread)).step fun _ => .ok _

theorem confirmDrop_mirrors :
    Mirrors (confirmDrop console.recorded updater.recorded name)
      (confirmDrop console updater name) := by
  refine mirrors_iff.mpr ((mirrors_iff.mp (askToDrop_mirrors console name)).step ?_)
  rintro ⟨first, unread⟩
  cases first with
  | false => exact .ok false
  | true => exact mirrors_iff.mp (askAgain_mirrors console updater name unread)

/-- The calls of a command that drops a table after asking. -/
def dropCalls (session : Session σ) : List Call :=
  (dropTable console.recorded updater.recorded name (session.recording [])).2.world.calls

theorem askToDrop_recording (session : Session σ) :
    (askToDrop console.recorded name (session.recording [])).2 =
      (askToDrop console name session).2.recording [] := by
  let taken : Session σ := { session with world := (console.takeInput session.world).2 }
  have hPlain : askToDrop console name session = ask console _ _ taken := rfl
  have hRecorded : askToDrop console.recorded name (session.recording []) =
    ask console.recorded _ (Text.byteLines (console.takeInput session.world).1)
      (taken.recording []) := rfl
  rw [hPlain, hRecorded, ask_snd, ask_snd]
  rfl

/-- Up to the decision only the check between the two questions makes calls. -/
theorem confirmDrop_calls (session : Session σ) :
    let between := (askToDrop console name session).2
    let recorded := confirmDrop console.recorded updater.recorded name (session.recording [])
    ∃ checked,
      Confirms (Text.byteLines (console.takeInput session.world).1)
        (updater.isAuthorising between).1 (confirmDrop console updater name session).1 checked ∧
      recorded.2.world.calls = if checked then updater.asked between else [] := by
  intro between recorded
  obtain ⟨checked, hConfirms, hPrints⟩ :=
    confirmDrop_confirms console.recorded updater.recorded name (session.recording [])
  have hResult : (confirmDrop console updater name session).1 = recorded.1 :=
    congrArg Prod.fst (confirmDrop_mirrors console updater name (session.recording []))
  have hCheck : (updater.recorded.isAuthorising (between.recording [])).1 =
      (updater.isAuthorising between).1 :=
    (congrArg Prod.fst (updater.isAuthorising_mirrors (between.recording []))).symm
  rw [askToDrop_recording] at hConfirms hPrints
  rw [hCheck] at hConfirms
  refine ⟨checked, hResult ▸ hConfirms, hPrints.calls.trans ?_⟩
  cases checked <;> rfl

theorem mem_statements_asked {updater : Updater σ} {session : Session σ} {sql : String}
    (h : sql ∈ statements (updater.asked session)) :
    updater.backend.services.probe globalSequenceTable session.world = some sql := by
  obtain ⟨events, hProbes, hRealizes⟩ := updater.asked_probes session
  obtain ⟨answer, hCall⟩ := mem_statements.mp h
  obtain ⟨outcome, hEvent⟩ := hRealizes.statement_of_execute hCall
  change updater.backend.services.probe "GLOBALSEQNO" session.world = some sql
  generalize updater.backend.services.probe "GLOBALSEQNO" session.world = probe at hProbes ⊢
  generalize (updater.isAuthorising session).1 = found at hProbes
  cases hProbes with
  | trusted => cases hEvent
  | present | missing | failed =>
    cases List.mem_singleton.mp hEvent
    rfl

variable {console updater name} {session : Session σ}

theorem dropCalls_confirmed (h : (confirmDrop console updater name session).1 = .ok true) :
    dropCalls console updater name session =
      updater.asked (askToDrop console name session).2 ++
        updater.calls [] [.dropTable name] (confirmDrop console updater name session).2 := by
  obtain ⟨checked, hConfirms, hCalls⟩ := confirmDrop_calls console updater name session
  have hMirror := confirmDrop_mirrors console updater name (session.recording [])
  rw [Session.forget_recording] at hMirror
  rw [h] at hConfirms
  rw [hMirror] at h ⊢
  rw [hConfirms.checked_of_ok, if_pos rfl] at hCalls
  have hEnded := (dropTable_confirmed_apply h).2.calls
  generalize confirmDrop console.recorded updater.recorded name (session.recording []) = recorded
    at hCalls hEnded
  have hDropped := Session.recorded_calls recorded.2 (Updater.dropTable_corresponds
    (updater.backend.recorded_prepends recorded.2.world.calls) updater.config name)
  rw [← hCalls]
  exact hEnded.trans hDropped

/-- Without a confirmation nothing is sent but the probe of the authorising table. -/
theorem mem_dropCalls_unconfirmed (h : (confirmDrop console updater name session).1 ≠ .ok true)
    {sql : String} (hSent : sql ∈ statements (dropCalls console updater name session)) :
    updater.backend.services.probe globalSequenceTable (askToDrop console name session).2.world =
      some sql := by
  obtain ⟨checked, -, hCalls⟩ := confirmDrop_calls console updater name session
  have hMirror := confirmDrop_mirrors console updater name (session.recording [])
  rw [Session.forget_recording] at hMirror
  rw [hMirror] at h
  have hEnded : dropCalls console updater name session = _ :=
    (dropTable_unconfirmed_apply h).2.calls.trans hCalls
  rw [hEnded] at hSent
  cases checked with
  | false => cases hSent
  | true => exact mem_statements_asked hSent

end Recorded

/-- A command drops a table only if both questions are answered with a yes, or the first one where
the store is no authorising one. Otherwise all it sends is the probe between the questions. -/
theorem dropTable_confirmed (console : Console σ) (updater : Updater σ) (name : String)
    (session : Session σ) :
    let lines := Text.byteLines (console.takeInput session.world).1
    let between := (askToDrop console name session).2
    let check := (updater.isAuthorising between).1
    let confirmed := confirmDrop console updater name session
    let calls := dropCalls console updater name session
    let code := exitCode (dropTable console updater name session).1
    (confirmed.1 = .ok true ↔ Consents lines check) ∧
    (confirmed.1 = .ok true →
      calls = updater.asked between ++ updater.calls [] [.dropTable name] confirmed.2 ∧
      code = match (updater.dropTable name confirmed.2).1 with
        | .ok _ => 0
        | .error _ => 1) ∧
    (confirmed.1 ≠ .ok true →
      (∀ sql ∈ statements calls,
        updater.backend.services.probe globalSequenceTable between.world = some sql) ∧
      ((∀ table world sql, updater.backend.services.probe table world = some sql →
          sql = describe table) →
        ∀ sql ∈ statements calls, sql = "describe GLOBALSEQNO")) ∧
    (Declines lines check → code = 0) ∧ (Breaks lines check → code = 1) := by
  intro lines between check confirmed calls code
  obtain ⟨checked, hConfirms, -⟩ := confirmDrop_calls console updater name session
  have hCode (h : confirmed.1 ≠ .ok true) : code = exitCode (confirmed.1.map fun _ => ()) :=
    congrArg exitCode (dropTable_unconfirmed_apply h).1
  refine ⟨hConfirms.consents, fun hYes => ⟨dropCalls_confirmed hYes, ?_⟩,
    fun hOther => ⟨fun sql => mem_dropCalls_unconfirmed hOther, fun hDescribe sql hSent => ?_⟩,
    fun hDeclines => ?_, fun hBreaks => ?_⟩
  · have hEnded : code = exitCode _ := congrArg exitCode (dropTable_confirmed_apply hYes).1
    rw [hEnded]
    cases (updater.dropTable name confirmed.2).1 <;> rfl
  · exact hDescribe _ _ sql (mem_dropCalls_unconfirmed hOther hSent)
  · have hNo : confirmed.1 = .ok false := hConfirms.of_declines hDeclines
    rw [hCode (by rw [hNo]; simp), hNo]
    rfl
  · obtain ⟨failure, hFailure⟩ : ∃ failure, confirmed.1 = .error failure :=
      hConfirms.of_breaks hBreaks
    rw [hCode (by rw [hFailure]; simp), hFailure]
    rfl

/-- One yes does not answer two questions. -/
theorem dropTable_confirmed_once :
    let updater : Updater Script := ⟨{}, Script.services, 3, .durable⟩
    let console : Console Script :=
      { print := fun _ script => script
        takeInput := fun script => ([121, 101, 115, 10], script) }
    let session : Session Script := { world := { client := .store {}, date := "" } }
    let check := (updater.isAuthorising (askToDrop console "DEMO" session).2).1
    Declines (Text.byteLines [121, 101, 115, 10]) check ∧
      exitCode (dropTable console updater "DEMO" session).1 = 0 ∧
      ∀ sql ∈ statements (dropCalls console updater "DEMO" session),
        sql = "describe GLOBALSEQNO" := by
  intro updater console session check
  have hFirst : Answer (Text.byteLines [121, 101, 115, 10]) (.ok true) [] :=
    answer_iff.mpr (by decide +kernel)
  have hCheck : check = .ok true := by decide +kernel
  have hDeclines : Declines (Text.byteLines [121, 101, 115, 10]) check :=
    ⟨[], .inr ⟨hFirst, hCheck, [], .silent (by simp)⟩⟩
  have hProbe : ∀ table world sql, updater.backend.services.probe table world = some sql →
      sql = describe table := by
    intro table script sql hSql
    change Script.probe table script = some sql at hSql
    unfold Script.probe at hSql
    split at hSql
    · cases hSql
    · split at hSql <;> cases hSql
      rfl
    · split at hSql <;> cases hSql
      rfl
  have hRefused : (confirmDrop console updater "DEMO" session).1 ≠ .ok true := by decide +kernel
  obtain ⟨-, -, hOther, hCode, -⟩ := dropTable_confirmed console updater "DEMO" session
  exact ⟨hDeclines, hCode hDeclines, (hOther hRefused).2 hProbe⟩

section Program

variable {config : Config} {updater : Updater Host} {session : Session Host}

theorem backend_of_withBackend {backend : Backend Host}
    (h : Updater.withBackend config backend = .ok updater) : updater.backend = backend := by
  unfold Updater.withBackend at h
  split at h <;> cases h
  rfl

/-- A run prints its statements, or has the services of the programs of its settings. -/
theorem services_of_openRun {host : Host}
    (h : Updater.openRun config host = (.ok updater, session)) :
    updater.backend.services = Updater.printing ∨
      ∃ access, updater.backend.services = Updater.programs config access := by
  unfold Updater.openRun Updater.connect at h
  split at h
  · cases h
  · split at h
    · rw [backend_of_withBackend (congrArg Prod.fst h)]
      exact .inl rfl
    · split at h
      · cases h
      · rename_i access _
        simp only at h
        split at h
        · rw [backend_of_withBackend (congrArg Prod.fst h)]
          exact .inr ⟨access, rfl⟩
        · cases h

/-- A run that was opened asks for a table by describing it, if it asks at all. -/
theorem openRun_probe {host : Host} (h : Updater.openRun config host = (.ok updater, session))
    {table sql : String} {world : Host}
    (hProbe : updater.backend.services.probe table world = some sql) : sql = describe table := by
  obtain hServices | ⟨access, hServices⟩ := services_of_openRun h <;> rw [hServices] at hProbe
  · cases hProbe
  · cases hProbe
    rfl

/-- The program ends as its command does. Without a confirmation it asks for the authorising table
at most. -/
theorem runInvocation_dropTable {options : Options} {host opening : Host} (name : String)
    (hOptions : options.temporaryTables = false)
    (hSettings : settings options host = (.ok config, opening))
    (hOpen : Updater.openRun config opening = (.ok updater, session)) :
    (runInvocation { options, command := .dropTable name } host).exitCode =
        exitCode (dropTable hostConsole updater name session).1 ∧
      ((confirmDrop hostConsole updater name session).1 ≠ .ok true →
        ∀ sql ∈ statements (dropCalls hostConsole updater name session),
          sql = "describe GLOBALSEQNO") := by
  constructor
  · simp only [runInvocation, execute, hOptions, hSettings, hOpen, perform]
    rfl
  · exact fun h sql hSent => openRun_probe hOpen (mem_dropCalls_unconfirmed h hSent)

end Program

end CommandLine

end ValidityTables
