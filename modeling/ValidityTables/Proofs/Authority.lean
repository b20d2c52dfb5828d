import ValidityTables.Proofs.Answers
import ValidityTables.Proofs.StoredRows
import ValidityTables.Proofs.Trials

/-! # Numbers that need an authority

Only the application of a block asks the allocator for a number: one for its own table, in the scope
of the update. A number that is unique in all stores needs an authorising store. Whether the store
is one is asked before the file is looked at, so where it is not, nothing of the file matters.
-/

namespace ValidityTables

variable {σ : Type}

def Call.request? : Call → Option (String × Scope)
  | .allocate table scope _ => some (table, scope)
  | .execute _ _ | .clock _ => none

/-- What the allocator was asked for. -/
def requests (calls : List Call) : List (String × Scope) := calls.filterMap Call.request?

def Event.request? : Event → Option (String × Scope)
  | .request table scope _ => some (table, scope)
  | .statement _ _ | .clock _ => none

def requested (events : List Event) : List (String × Scope) := events.filterMap Event.request?

@[simp] theorem requests_append (before later : List Call) :
    requests (before ++ later) = requests before ++ requests later := List.filterMap_append

@[simp] theorem requested_append (before later : List Event) :
    requested (before ++ later) = requested before ++ requested later := List.filterMap_append

theorem requests_execute (sql : String) (answers : List (Except UpdateError Reply)) :
    requests (answers.map (.execute sql)) = [] := by
  simp [requests, Call.request?]

theorem Realizes.requests {attempts : Nat} {events : List Event} {calls : List Call}
    (h : Realizes attempts events calls) : requests calls = requested events := by
  induction h with
  | nil => rfl
  | statement _ _ ih => rw [requests_append, requests_execute, ih]; rfl
  | request _ ih => exact congrArg _ ih
  | clock _ ih => exact ih

section Requested

theorem Probes.requested {probe : Option String} {events : List Event}
    {found : Except UpdateError Bool} (h : Probes probe events found) : requested events = [] := by
  cases h <;> rfl

theorem Misses.requested {probe : Option String} {mode : Mode} {events : List Event}
    {missing : Except UpdateError Bool} (h : Misses probe mode events missing) :
    requested events = [] := by
  cases h with
  | probed hProbes => exact hProbes.requested
  | remembered => rfl

theorem Ensures.requested {mode : Mode} {probe : Option String} {create : String}
    {events : List Event} {created : Except UpdateError Bool}
    (h : Ensures mode probe create events created) : requested events = [] := by
  cases h with
  | unknown hMisses | present hMisses => exact hMisses.requested
  | created _ hMisses | refused _ hMisses =>
    rw [requested_append, hMisses.requested]
    rfl

theorem Removes.requested {table : String} {seqno : UInt32} {mode : Mode} {events : List Event}
    (h : Removes table seqno mode events) : requested events = [] := by
  cases h <;> rfl

theorem Acquires.requested {table : String} {scope : Scope} {mode : Mode} {events : List Event}
    {answer : Except UpdateError UInt32} (h : Acquires table scope mode events answer) :
    requested events = [] ∨ requested events = [(table, scope)] := by
  cases h with
  | refused e => exact .inr rfl
  | allocated hRemoves => exact .inr (congrArg ((table, scope) :: ·) hRemoves.requested)
  | counted => exact .inl rfl

theorem Succeeds.requested {statements : List String} {events : List Event}
    (h : Succeeds statements events) : requested events = [] := by
  induction h with
  | nil => rfl
  | cons hEvent _ ih =>
    obtain ⟨lines, rfl⟩ := hEvent
    exact ih

theorem Stores.requested {mode : Mode} {table : String} {seqno : UInt32} {statements : List String}
    {events : List Event} {result : Except UpdateError Unit}
    (h : Stores mode table seqno statements events result) : requested events = [] := by
  cases h with
  | all hDone => exact hDone.requested
  | failed _ hDone hRemoves =>
    rw [requested_append, hDone.requested]
    exact hRemoves.requested

/-- An application asks for one number at most. -/
theorem Application.requested {mode : Mode} {keyword : String} {probe : Option String}
    {settings : BlockSettings} {inserted : String} {header : Header} {rows : Rows}
    {events : List Event} {outcome : Except UpdateError BlockReport × Stage}
    (h : Application mode keyword probe settings inserted header rows events outcome) :
    requested events = [] ∨ requested events = [(header.table, settings.scope)] := by
  cases h with
  | notEnsured hEnsures => exact .inl hEnsures.requested
  | notAcquired hEnsures hAcquires =>
    simpa [hEnsures.requested] using hAcquires.requested
  | notStored hEnsures hAcquires hStores | stored hEnsures hAcquires hStores =>
    simpa [hEnsures.requested, hStores.requested] using hAcquires.requested

theorem Trial.requests_calls (backend : Backend σ) (trial : Trial σ) :
    requests (trial.calls backend) = [] ∨
      requests (trial.calls backend) = [(trial.header.table, trial.settings.scope)] := by
  rcases hRecorded : Block.applyReady backend.recorded trial.settings trial.inserted trial.header
    trial.rows (trial.session.recording []) with ⟨outcome, after⟩
  obtain ⟨events, hApplication, calls, hPath, hRealizes⟩ := Block.applyReady_traces hRecorded
  have hCalls : trial.calls backend = calls := by
    rw [Trial.calls, hRecorded]
    exact hPath.recorded
  rw [hCalls, hRealizes.requests]
  exact hApplication.requested

end Requested

/-- The calls of the trials one after another, and no request outside of them. -/
inductive Interleaves (backend : Backend σ) : List (Trial σ) → List Call → Prop
  | done {calls : List Call} : requests calls = [] → Interleaves backend [] calls
  | trial {trial : Trial σ} {rest : List (Trial σ)} {quiet later : List Call} :
      requests quiet = [] → Interleaves backend rest later →
      Interleaves backend (trial :: rest) (quiet ++ trial.calls backend ++ later)

namespace Interleaves

variable {backend : Backend σ}

theorem after_quiet {trials : List (Trial σ)} {quiet calls : List Call}
    (hQuiet : requests quiet = []) (h : Interleaves backend trials calls) :
    Interleaves backend trials (quiet ++ calls) := by
  cases h with
  | done hCalls => exact .done (by simp [hQuiet, hCalls])
  | trial hBefore hRest =>
    rw [← List.append_assoc, ← List.append_assoc]
    exact .trial (by simp [hQuiet, hBefore]) hRest

theorem append {first second : List (Trial σ)} {before later : List Call}
    (h : Interleaves backend first before) (hLater : Interleaves backend second later) :
    Interleaves backend (first ++ second) (before ++ later) := by
  induction h with
  | done hQuiet => exact hLater.after_quiet hQuiet
  | trial hQuiet _ ih =>
    rw [List.append_assoc]
    exact .trial hQuiet ih

theorem single (trial : Trial σ) : Interleaves backend [trial] (trial.calls backend) := by
  have hTrial : Interleaves backend [trial] ([] ++ trial.calls backend ++ []) :=
    .trial rfl (.done rfl)
  simpa using hTrial

theorem requests {trials : List (Trial σ)} {calls : List Call}
    (h : Interleaves backend trials calls) :
    requests calls = trials.flatMap fun trial => requests (trial.calls backend) := by
  induction h with
  | done hQuiet => exact hQuiet
  | trial hQuiet _ ih => simp [hQuiet, ih]

end Interleaves

section Serves

variable (backend : Backend σ)

/-- The record goes on with the calls of the trials, and asks for no number outside of them. -/
def Serves (trials : List (Trial σ)) (before after : Session (Recorded σ)) : Prop :=
  ∃ calls, after.world.calls = before.world.calls ++ calls ∧ Interleaves backend trials calls

variable {backend}

theorem Serves.append {first second : List (Trial σ)} {before middle after : Session (Recorded σ)}
    (h : Serves backend first before middle) (hLater : Serves backend second middle after) :
    Serves backend (first ++ second) before after := by
  obtain ⟨done, hDone, hFirst⟩ := h
  obtain ⟨more, hMore, hSecond⟩ := hLater
  exact ⟨done ++ more, by rw [hMore, hDone, List.append_assoc], hFirst.append hSecond⟩

theorem Serves.quiet {before after : Session (Recorded σ)} {events : List Event}
    (h : backend.recorded.Traces before.world events after.world) (hQuiet : requested events = []) :
    Serves backend [] before after := by
  obtain ⟨calls, hPath, hRealizes⟩ := h
  exact ⟨calls, hPath.recorded, .done (hRealizes.requests.trans hQuiet)⟩

theorem Block.applyAt_serves (inserted : String) (block : Block) (session : Session (Recorded σ)) :
    Serves backend (block.trials inserted session.forget) session
      (block.applyAt backend.recorded inserted session).2 := by
  obtain ⟨settings, stage⟩ := block
  cases stage with
  | ready header rows =>
    cases hRows : rows.isEmpty with
    | true =>
      rw [applyAt_waiting backend.recorded settings inserted header hRows]
      simpa [Block.trials, hRows] using Serves.quiet (.nil session.world) rfl
    | false =>
      have hCalls := Session.recorded_calls session
        ((backend.recorded_prepends session.world.calls).applyReady settings inserted header rows)
      rw [applyAt_ready backend.recorded settings inserted header hRows]
      simp only [Block.trials, hRows, Bool.false_eq_true, if_false]
      exact ⟨_, hCalls, .single { settings, inserted, header, rows, session := session.forget }⟩
  | refused | applied | failed => exact .quiet (.nil session.world) rfl

namespace UpdateFile

theorem Reached.close_serves (reached : Reached) (session : Session (Recorded σ)) :
    Serves backend (reached.trials backend session.forget) session
      (reached.close backend.recorded session).2 := by
  unfold Reached.trials Reached.close
  cases reached.block with
  | none => exact .quiet (.nil session.world) rfl
  | some block =>
    have hNow : Serves backend [] session (backend.recorded.now session).2 :=
      .quiet (Backend.now_traces rfl) rfl
    have hApply := hNow.append (block.applyAt_serves (backend.recorded.now session).1
      (backend.recorded.now session).2)
    change Serves backend _ session (block.apply backend.recorded session).2 at hApply
    simp only
    rcases hEnded : block.apply backend.recorded session with ⟨⟨_ | _, _⟩, _⟩ <;>
      rw [hEnded] at hApply <;> exact hApply

theorem Begins.requested {line : String} {events : List Event}
    {begun : Except UpdateError Header} (h : Begins backend line events begun) :
    requested events = [] := by
  cases h with
  | unreadable => rfl
  | unknown _ _ hProbes | missing _ _ hProbes | misdated _ _ hProbes | begun _ _ hProbes =>
    exact hProbes.requested

theorem Item.perform_serves (settings : BlockSettings) (reached : Reached) (item : Item)
    (session : Session (Recorded σ)) :
    Serves backend (item.trials backend reached session.forget) session
      (item.perform backend.recorded settings reached session).2 := by
  cases item with
  | statement text =>
    rcases hExecute : reached.execute backend.recorded text session with ⟨result, after⟩
    obtain ⟨outcome, hTraces, -⟩ := Reached.execute_traces hExecute
    rw [Item.perform, hExecute]
    exact .quiet hTraces rfl
  | header line =>
    have hClose : Serves backend _ session _ := reached.close_serves session
    rw [Item.perform, Action.bind_apply]
    rcases hClosed : reached.close backend.recorded session with ⟨e | closed, middle⟩ <;>
      rw [hClosed] at hClose
    · exact hClose
    · rcases hStart : closed.start backend.recorded settings line middle with ⟨result, after⟩
      obtain ⟨events, begun, hTraces, hBegins, -⟩ := Reached.start_traces hStart
      simp only [hStart]
      rw [← List.append_nil (Item.trials _ _ _ _)]
      exact hClose.append (.quiet hTraces hBegins.requested)
  | row | stop => exact .quiet (.nil session.world) rfl

theorem trialsFrom_serves (settings : BlockSettings) (reached : Reached) (items : List Item)
    (session : Session (Recorded σ)) :
    Serves backend (trialsFrom backend settings reached session.forget items) session
      ((through backend.recorded settings reached items >>=
        Reached.finish backend.recorded : Action _ _) session).2 := by
  rw [Action.bind_apply]
  induction items generalizing reached session with
  | nil =>
    rw [through_nil]
    simp only [Reached.finish_apply]
    exact reached.close_serves session
  | cons item rest ih =>
    have hItem : Serves backend _ session _ := item.perform_serves settings reached session
    rw [through_cons, trialsFrom, item.perform_mirrors backend settings reached session]
    rcases hPerform : item.perform backend.recorded settings reached session with
      ⟨e | next, middle⟩ <;> rw [hPerform] at hItem
    · simpa using hItem
    · exact hItem.append (ih next middle)

theorem apply_serves (settings : BlockSettings) (lines : List SourceLine)
    (session : Session (Recorded σ)) :
    Serves backend (trials backend settings lines session.forget) session
      (UpdateFile.apply backend.recorded settings lines session).2 := by
  rw [apply_eq_through]
  exact trialsFrom_serves settings {} (items lines) session

end UpdateFile

end Serves

namespace Updater

section Check

variable {updater : Updater σ}

theorem isAuthorising_traces {session after : Session σ} {found : Except UpdateError Bool}
    (h : updater.isAuthorising session = (found, after)) :
    ∃ events, Probes (updater.backend.services.probe globalSequenceTable session.world) events
        found ∧ updater.backend.Traces session.world events after.world :=
  Backend.tableExists_traces h

/-- In a durable run the store is asked first, and the file is looked at only if it may be. -/
theorem applySource_globally (hMode : updater.backend.mode = .durable)
    (source : Except IoFault (List SourceLine)) (session : Session σ) :
    updater.applySource .globally source session =
      match updater.isAuthorising session with
      | (.ok true, checked) =>
        match source with
        | .error fault => (.error (.io fault), checked)
        | .ok lines => UpdateFile.apply updater.backend
            (blockSettings updater.config .globally) lines checked
      | (.ok false, checked) => (.error .notAuthorising, checked)
      | (.error e, checked) => (.error e, checked) := by
  unfold applySource checkScope
  simp only [hMode, Action.bind_apply]
  rcases updater.isAuthorising session with ⟨_ | _ | _, checked⟩
  · rfl
  · rfl
  · cases source <;> rfl

theorem applySource_ephemeral (hMode : updater.backend.mode = .ephemeral)
    (source : Except IoFault (List SourceLine)) (session : Session σ) :
    updater.applySource .globally source session =
      (.error (.invalidConfig "temporary tables mode only supports local updates"), session) := by
  unfold applySource checkScope
  simp only [hMode]
  rfl

/-- The error of every update if this is what the store answers. -/
def Denies (found : Except UpdateError Bool) (e : UpdateError) : Prop :=
  found = .ok false ∧ e = .notAuthorising ∨ found = .error e

theorem denies_of_ne {found : Except UpdateError Bool} (h : found ≠ .ok true) :
    ∃ e, Denies found e := by
  rcases found with e | _ | _
  · exact ⟨e, .inr rfl⟩
  · exact ⟨.notAuthorising, .inl ⟨rfl, rfl⟩⟩
  · exact absurd rfl h

theorem applySource_denied (hMode : updater.backend.mode = .durable) {e : UpdateError}
    {session : Session σ} (h : Denies (updater.isAuthorising session).1 e)
    (source : Except IoFault (List SourceLine)) :
    updater.applySource .globally source session =
      (.error e, (updater.isAuthorising session).2) := by
  rw [applySource_globally hMode]
  rcases hCheck : updater.isAuthorising session with ⟨found, checked⟩
  rw [hCheck] at h
  obtain ⟨hFound, rfl⟩ | hFound := h
  · obtain rfl : found = .ok false := hFound
    rfl
  · obtain rfl : found = .error e := hFound
    rfl

theorem checkScope_serves (scope : Scope) (session : Session (Recorded σ)) :
    Serves updater.backend [] session
      (updater.recorded.checkScope scope session).2 := by
  cases scope with
  | locally => exact .quiet (.nil session.world) rfl
  | globally =>
    unfold checkScope
    simp only [recorded_backend, Backend.recorded_mode]
    cases updater.backend.mode with
    | ephemeral => exact .quiet (.nil session.world) rfl
    | durable =>
      simp only [Action.bind_apply]
      rcases hFound : updater.recorded.isAuthorising session with ⟨found, checked⟩
      obtain ⟨events, hProbes, hTraces⟩ := isAuthorising_traces hFound
      have hChecked : Serves updater.backend [] session checked :=
        .quiet hTraces hProbes.requested
      rcases found with _ | _ | _ <;> exact hChecked

theorem applySource_serves (scope : Scope) (source : Except IoFault (List SourceLine))
    (session : Session (Recorded σ)) :
    Serves updater.backend (updater.fileTrials scope source session.forget) session
      (updater.recorded.applySource scope source session).2 := by
  have hChecked : Serves updater.backend [] session _ := checkScope_serves scope session
  unfold applySource fileTrials
  rw [Action.bind_apply, updater.checkScope_mirrors scope session]
  rcases hResult : updater.recorded.checkScope scope session with ⟨e | _, after⟩ <;>
    rw [hResult] at hChecked
  · exact hChecked
  · cases source with
    | error fault => exact hChecked
    | ok lines => exact hChecked.append (UpdateFile.apply_serves _ lines after)

theorem begin_lasting (backend : Backend σ) (settings : BlockSettings) :
    Block.Lasting backend settings fun block => block.settings = settings where
  begun {line session block after} h := by
    unfold Block.begin at h
    cases hParse : Header.parse line with
    | error reason =>
      rw [hParse] at h
      cases h
      rfl
    | ok header =>
      simp only [hParse, Action.bind_apply] at h
      rcases hFound : backend.tableExists header.table session with ⟨_ | _ | _, middle⟩ <;>
        rw [hFound] at h
      · cases h
      · cases h
        rfl
      · simp only [Bool.not_true, Bool.false_eq_true, if_false] at h
        cases hDates : header.checkDates line <;> rw [hDates] at h <;> cases h <;> rfl
  advanced hAdvances hSettings := hAdvances.settings.trans hSettings

end Check

section Authority

variable (updater : Updater σ)

/-- The calls of asking whether the store is authorising. -/
def asked (session : Session σ) : List Call := updater.calls [] [.isAuthorising] session

/-- The calls of applying a file. -/
def made (scope : Scope) (source : Except IoFault (List SourceLine)) (session : Session σ) :
    List Call := updater.calls [] [.applyFile scope source] session

/-- The store was asked by a probe of its table of numbers, and nothing but its answer gives them
free: or it has no probe, and is taken for an authorising one. -/
inductive Approved (session : Session σ) : Prop
  | trusted : updater.backend.services.probe "GLOBALSEQNO" session.world = none →
      updater.asked session = [] → Approved session
  | answered {sql : String} {answers : List (Except UpdateError Reply)} {lines : List String} :
      updater.backend.services.probe "GLOBALSEQNO" session.world = some sql →
      updater.asked session = answers.map (.execute sql) →
      Resolves updater.backend.attempts sql updater.backend.attempts answers (.ok lines) →
      Approved session

/-- The store cannot be asked, or is not authorising: that is the error of every update, and the
only calls are the attempts of the probe. -/
structure Refused (e : UpdateError) (session : Session σ) : Prop where
  reason : Denies (updater.isAuthorising session).1 e
  probed : ∃ sql answers outcome,
    updater.backend.services.probe "GLOBALSEQNO" session.world = some sql ∧
      updater.asked session = answers.map (.execute sql) ∧
      Resolves updater.backend.attempts sql updater.backend.attempts answers outcome
  whatever : ∀ source, updater.applySource .globally source session =
      (.error e, (updater.isAuthorising session).2) ∧
    updater.made .globally source session = updater.asked session

/-- What a durable update asks of the allocator, and with which authority. -/
structure Authorised (scope : Scope) (source : Except IoFault (List SourceLine))
    (session : Session σ) : Prop where
  inside : Interleaves updater.backend (updater.fileTrials scope source session)
    (updater.made scope source session)
  own : ∀ trial ∈ updater.fileTrials scope source session,
    requests (trial.calls updater.backend) = [] ∨
      requests (trial.calls updater.backend) = [(trial.header.table, scope)]
  authority : ∀ table, (table, .globally) ∈ requests (updater.made scope source session) →
    scope = .globally ∧ (updater.isAuthorising session).1 = .ok true ∧ updater.Approved session
  first : scope = .globally → ∀ other,
    updater.asked session <+: updater.made .globally other session
  refused : scope = .globally → (updater.isAuthorising session).1 ≠ .ok true →
    ∃ e, updater.Refused e session

variable {updater}

/-- The check is one probe of the store, or no call at all. -/
theorem asked_probes (session : Session σ) :
    ∃ events, Probes (updater.backend.services.probe "GLOBALSEQNO" session.world) events
        (updater.isAuthorising session).1 ∧
      Realizes updater.backend.attempts events (updater.asked session) := by
  rcases hFound : updater.recorded.isAuthorising (session.recording []) with ⟨found, checked⟩
  obtain ⟨events, hProbes, calls, hPath, hRealizes⟩ := isAuthorising_traces hFound
  have hAsked : updater.asked session = calls :=
    (congrArg (·.2.world.calls) hFound).trans hPath.recorded
  have hPlain := updater.isAuthorising_mirrors (session.recording [])
  rw [hFound, Session.forget_recording] at hPlain
  rw [hPlain, hAsked]
  exact ⟨events, hProbes, hRealizes⟩

/-- Only an answer to the probe shows that a table is missing, or that it cannot be asked for. -/
theorem asked_of_denied {session : Session σ} {e : UpdateError}
    (h : Denies (updater.isAuthorising session).1 e) :
    ∃ sql answers outcome,
      updater.backend.services.probe "GLOBALSEQNO" session.world = some sql ∧
        updater.asked session = answers.map (.execute sql) ∧
        Resolves updater.backend.attempts sql updater.backend.attempts answers outcome := by
  obtain ⟨events, hProbes, hRealizes⟩ := updater.asked_probes session
  generalize updater.backend.services.probe "GLOBALSEQNO" session.world = probe at hProbes ⊢
  generalize (updater.isAuthorising session).1 = found at h hProbes
  cases hProbes with
  | trusted | present =>
    obtain ⟨hFalse, -⟩ | hError := h
    · cases hFalse
    · cases hError
  | missing | failed =>
    obtain ⟨answers, hAsked, hResolves⟩ := hRealizes.answers
    exact ⟨_, answers, _, rfl, hAsked, hResolves⟩

theorem approved_of_check {session : Session σ}
    (h : (updater.isAuthorising session).1 = .ok true) : updater.Approved session := by
  obtain ⟨events, hProbes, hRealizes⟩ := updater.asked_probes session
  rw [h] at hProbes
  generalize hProbe : updater.backend.services.probe "GLOBALSEQNO" session.world = probe at hProbes
  cases hProbes with
  | trusted =>
    generalize hAsked : updater.asked session = calls at hRealizes
    cases hRealizes
    exact .trusted hProbe hAsked
  | present sql lines =>
    obtain ⟨answers, hAsked, hResolves⟩ := hRealizes.answers
    exact .answered hProbe hAsked hResolves

theorem refused_of_check (hMode : updater.backend.mode = .durable) {session : Session σ}
    (h : (updater.isAuthorising session).1 ≠ .ok true) : ∃ e, updater.Refused e session := by
  obtain ⟨e, hDenies⟩ := denies_of_ne h
  refine ⟨e, hDenies, asked_of_denied hDenies, fun source => ?_⟩
  constructor
  · exact applySource_denied hMode hDenies source
  · have hPlain := updater.isAuthorising_mirrors (session.recording [])
    rw [← Session.forget_recording session [], hPlain] at hDenies
    exact congrArg (·.2.world.calls) (@applySource_denied _ updater.recorded hMode e
      (session.recording []) hDenies source)

theorem asked_isPrefix (hMode : updater.backend.mode = .durable)
    (source : Except IoFault (List SourceLine)) (session : Session σ) :
    updater.asked session <+: updater.made .globally source session := by
  have hMade : updater.made .globally source session =
      (updater.recorded.applySource .globally source (session.recording [])).2.world.calls := rfl
  rcases hFound : updater.recorded.isAuthorising (session.recording []) with ⟨found, checked⟩
  have hAsked : updater.asked session = checked.world.calls := congrArg (·.2.world.calls) hFound
  rw [hAsked, hMade, @applySource_globally _ updater.recorded hMode, hFound]
  rcases found with _ | _ | _
  · exact List.prefix_rfl
  · exact List.prefix_rfl
  · cases source with
    | error fault => exact List.prefix_rfl
    | ok lines =>
      obtain ⟨calls, hCalls, -⟩ := UpdateFile.apply_serves
        (blockSettings updater.config .globally) lines checked
      exact ⟨calls, hCalls.symm⟩

theorem requests_asked (session : Session σ) : requests (updater.asked session) = [] := by
  obtain ⟨events, hProbes, hRealizes⟩ := updater.asked_probes session
  rw [hRealizes.requests, hProbes.requested]

theorem authorised (hMode : updater.backend.mode = .durable) (scope : Scope)
    (source : Except IoFault (List SourceLine)) (session : Session σ) :
    updater.Authorised scope source session := by
  have hInside : Interleaves updater.backend (updater.fileTrials scope source session)
      (updater.made scope source session) := by
    obtain ⟨calls, hCalls, hInterleaves⟩ :=
      @applySource_serves _ updater scope source (session.recording [])
    have hMade : updater.made scope source session = calls := hCalls
    rw [hMade]
    exact hInterleaves
  have hOwn : ∀ trial ∈ updater.fileTrials scope source session,
      requests (trial.calls updater.backend) = [] ∨
        requests (trial.calls updater.backend) = [(trial.header.table, scope)] := by
    intro trial hMem
    have hSettings : trial.settings = blockSettings updater.config scope :=
      mem_fileTrials (begin_lasting _ _) hMem
    have hScope : trial.settings.scope = scope := by
      rw [hSettings]
      rfl
    have hRequests := trial.requests_calls updater.backend
    rwa [hScope] at hRequests
  refine ⟨hInside, hOwn, ?_, ?_, ?_⟩
  · intro table hMem
    have hMade := hMem
    rw [hInside.requests] at hMem
    obtain ⟨trial, hTrial, hRequest⟩ := List.mem_flatMap.mp hMem
    obtain hNone | hOne := hOwn trial hTrial
    · rw [hNone] at hRequest
      cases hRequest
    · rw [hOne] at hRequest
      obtain ⟨-, rfl⟩ := Prod.mk.inj (List.mem_singleton.mp hRequest)
      -- Otherwise the only calls are those of the check, and these ask for no number.
      have hChecked : (updater.isAuthorising session).1 = .ok true := by
        by_contra hUnchecked
        obtain ⟨e, hRefused⟩ := refused_of_check hMode hUnchecked
        rw [(hRefused.whatever source).2, requests_asked] at hMade
        cases hMade
      exact ⟨rfl, hChecked, approved_of_check hChecked⟩
  · rintro rfl other
    exact asked_isPrefix hMode other session
  · rintro rfl hUnchecked
    exact refused_of_check hMode hUnchecked

section Program

variable (updater)

theorem performAll_append (blocks : List Block) (before after : List Operation)
    (session : Session σ) :
    let first := updater.performAll blocks before session
    let second := updater.performAll first.1.2 after first.2
    updater.performAll blocks (before ++ after) session =
      ((first.1.1 ++ second.1.1, second.1.2), second.2) := by
  induction before generalizing blocks session with
  | nil => rfl
  | cons operation rest ih =>
    simp only [List.cons_append, performAll, Action.state_bind_apply]
    rw [ih]
    rfl

theorem calls_append (blocks : List Block) (before after : List Operation)
    (session : Session σ) :
    let first := updater.performAll blocks before session
    updater.calls blocks (before ++ after) session =
      updater.calls blocks before session ++ updater.calls first.1.2 after first.2 := by
  intro first
  let ended := updater.recorded.performAll blocks before (session.recording [])
  have hFirst : first = (ended.1, ended.2.forget) :=
    performAll_mirrors updater blocks before (session.recording [])
  have hLater := Session.recorded_calls ended.2 (performAll_corresponds
    (updater.backend.recorded_prepends ended.2.world.calls) (fun h => h ▸ ⟨rfl, rfl⟩)
    updater.config ended.1.2 after)
  rw [hFirst, calls, performAll_append]
  exact hLater

/-- In any program, an update of a file asks for numbers only to apply its blocks, for their tables
and in its scope. Where these are to be unique in all stores, the store is asked first whether it is
authorising, and if it is not, nothing depends on the file. A run with temporary tables refuses such
an update at once. -/
theorem performAll_authority (blocks : List Block) (before after : List Operation) (scope : Scope)
    (source : Except IoFault (List SourceLine)) (session : Session σ) :
    let start := (updater.performAll blocks before session).2
    (∃ later, updater.calls blocks (before ++ .applyFile scope source :: after) session =
      updater.calls blocks before session ++ updater.made scope source start ++ later) ∧
    match updater.backend.mode with
    | .durable => updater.Authorised scope source start
    | .ephemeral => scope = .globally → updater.made scope source start = [] ∧
      updater.applySource scope source start = (.error
        (.invalidConfig "temporary tables mode only supports local updates"), start) := by
  intro start
  constructor
  · have hProgram := calls_append updater blocks before (.applyFile scope source :: after) session
    have hUpdate : updater.calls (updater.performAll blocks before session).1.2
        (.applyFile scope source :: after) start = updater.made scope source start ++ _ :=
      calls_append updater _ [.applyFile scope source] after start
    rw [hProgram, hUpdate, ← List.append_assoc]
    exact ⟨_, rfl⟩
  · cases hMode : updater.backend.mode with
    | durable => exact authorised hMode scope source start
    | ephemeral =>
      rintro rfl
      have hMade := @applySource_ephemeral _ updater.recorded hMode source (start.recording [])
      exact ⟨congrArg (·.2.world.calls) hMade, applySource_ephemeral hMode source start⟩

end Program

example :
    let updater : Updater Script := ⟨{}, Script.backend⟩
    let file : Except IoFault (List SourceLine) := .ok ([UpdateFile.commentedHeader, "1,2"].map .ok)
    let lonely : Script := { Script.steady with client := .store { missing := ["GLOBALSEQNO"] } }
    requests (updater.made .globally file { world := Script.steady }) = [("DEMO", .globally)] ∧
      statements (updater.made .globally file { world := lonely }) = ["describe GLOBALSEQNO"] ∧
      requests (updater.made .globally file { world := lonely }) = [] := by
  decide +kernel

end Authority

end Updater

end ValidityTables
