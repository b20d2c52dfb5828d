import ValidityTables.Proofs.Calls
import ValidityTables.Proofs.Correspondence

/-! # Recording changes nothing

A run with services that record their calls is the run without the record: the same result, and the
same session once the record is forgotten. So the calls of a run are those that its recorded run has
in the end, and what is proved of them is proved of the run itself.
-/

namespace ValidityTables

variable {σ α : Type}

/-- The session with a record of the calls that were made before. -/
def Session.recording (session : Session σ) (calls : List Call) : Session (Recorded σ) where
  world := { world := session.world, calls }
  results := session.results
  executed := session.executed
  counters := session.counters

def Session.forget (session : Session (Recorded σ)) : Session σ where
  world := session.world.world
  results := session.results
  executed := session.executed
  counters := session.counters

theorem Session.forget_recording (session : Session σ) (calls : List Call) :
    (session.recording calls).forget = session := rfl

/-- The recorded step does what the plain one does. -/
def Mirrors (recorded : StateM (Session (Recorded σ)) α) (plain : StateM (Session σ) α) : Prop :=
  ∀ session, plain session.forget = ((recorded session).1, (recorded session).2.forget)

theorem mirrors_iff {recorded : StateM (Session (Recorded σ)) α} {plain : StateM (Session σ) α} :
    Mirrors recorded plain ↔
      Corresponds (fun session other => session.forget = other) recorded plain := by
  constructor
  · rintro h session _ rfl
    rw [h session]
    exact ⟨rfl, rfl⟩
  · intro h session
    obtain ⟨hResult, hAfter⟩ := h session _ rfl
    exact Prod.ext hResult hAfter.symm

namespace Backend

variable (backend : Backend σ)

theorem attempt_mirrors (sql : String) (left : Nat) :
    Mirrors (backend.recorded.attempt sql left) (backend.attempt sql left) := by
  induction left with
  | zero => exact fun _ => rfl
  | succ left ih =>
    intro session
    unfold attempt
    rcases hAnswer : backend.services.execute sql session.world.world with ⟨answer, world⟩
    have hPlain : backend.services.execute sql session.forget.world = (answer, world) := hAnswer
    have hRecorded : backend.recorded.services.execute sql session.world =
        (answer, session.world.add (.execute sql answer) world) := by
      simp only [recorded, Services.recorded, hAnswer]
    simp only [hPlain, hRecorded]
    cases answer with
    | error e => rfl
    | ok reply =>
      simp only
      split
      · exact ih { session with
          world := session.world.add (.execute sql (.ok reply)) world, results := reply.lines }
      · split <;> rfl

theorem query_mirrors (sql : String) : Mirrors (backend.recorded.query sql) (backend.query sql) :=
  backend.attempt_mirrors sql backend.attempts

theorem recorded_matches :
    Matches (fun session other => session.forget = other) backend.recorded backend where
  mode := rfl
  probe _ h := h ▸ rfl
  query sql := mirrors_iff.mp (backend.query_mirrors sql)
  allocate _ _ := mirrors_iff.mp fun _ => rfl
  now := mirrors_iff.mp fun _ => rfl
  counters h := h ▸ rfl
  recounted _ h := h ▸ rfl

end Backend

namespace Block

variable (backend : Backend σ)

theorem applyReady_mirrors (settings : BlockSettings) (inserted : String) (header : Header)
    (rows : Rows) :
    Mirrors (applyReady backend.recorded settings inserted header rows)
      (applyReady backend settings inserted header rows) :=
  mirrors_iff.mpr (backend.recorded_matches.applyReady settings inserted header rows)

def calls (inserted : String) (block : Block) (session : Session σ) : List Call :=
  (applyAt backend.recorded inserted block (session.recording [])).2.world.calls

end Block

namespace UpdateFile

variable (backend : Backend σ)

theorem run_mirrors (settings : BlockSettings) (items : List Item) (reached : Reached) :
    Mirrors (run backend.recorded settings reached items)
      (run backend settings reached items) :=
  mirrors_iff.mpr
    ((backend.recorded_matches.aligned settings items).run reached fun _ _ => trivial)

theorem apply_mirrors (settings : BlockSettings) (lines : List SourceLine) :
    Mirrors (UpdateFile.apply backend.recorded settings lines)
      (UpdateFile.apply backend settings lines) :=
  mirrors_iff.mpr (backend.recorded_matches.aligned settings (items lines)).file

def calls (settings : BlockSettings) (lines : List SourceLine) (session : Session σ) : List Call :=
  (UpdateFile.apply backend.recorded settings lines (session.recording [])).2.world.calls

end UpdateFile

section Prepend

/-- The session with a record that begins with further calls. -/
def Session.prepend (calls : List Call) (session : Session (Recorded σ)) : Session (Recorded σ) :=
  { session with world := { session.world with calls := calls ++ session.world.calls } }

variable (backend : Backend σ) (calls : List Call)

theorem Backend.attempt_prepends (sql : String) (left : Nat) :
    Corresponds (fun session other => other = session.prepend calls)
      (backend.recorded.attempt sql left) (backend.recorded.attempt sql left) := by
  induction left with
  | zero =>
    rintro session _ rfl
    exact ⟨rfl, rfl⟩
  | succ left ih =>
    rintro session _ rfl
    rcases hAnswer : backend.services.execute sql session.world.world with ⟨answer, world⟩
    have hRecorded (before : List Call) : backend.recorded.services.execute sql
        { world := session.world.world, calls := before } =
          (answer, { world, calls := before ++ [.execute sql answer] }) := by
      simp only [Backend.recorded, Services.recorded, hAnswer, Recorded.add]
    have hFirst := hRecorded session.world.calls
    have hSecond := hRecorded (calls ++ session.world.calls)
    rw [List.append_assoc] at hSecond
    unfold Backend.attempt
    simp only [Session.prepend, hFirst, hSecond]
    cases answer with
    | error e => exact ⟨rfl, rfl⟩
    | ok reply =>
      simp only
      split
      · exact ih _ _ rfl
      · split <;> exact ⟨rfl, rfl⟩

/-- What was recorded before a run does not change it. -/
theorem Backend.recorded_prepends :
    Backend.Matches (fun session other => other = session.prepend calls) backend.recorded
      backend.recorded where
  mode := rfl
  probe _ h := h ▸ rfl
  query sql := backend.attempt_prepends calls sql backend.attempts
  allocate table scope := by
    rintro session _ rfl
    simp [Backend.allocate, Backend.recorded, Services.recorded, Session.prepend, Recorded.add]
  now := by
    rintro session _ rfl
    simp [Backend.now, Backend.recorded, Services.recorded, Session.prepend, Recorded.add]
  counters h := h ▸ rfl
  recounted _ h := h ▸ rfl

/-- A step adds to the record what it would have recorded by itself. -/
theorem Session.recorded_calls {step : StateM (Session (Recorded σ)) α}
    (session : Session (Recorded σ))
    (h : Corresponds (fun before other => other = before.prepend session.world.calls) step step) :
    (step session).2.world.calls =
      session.world.calls ++ (step (session.forget.recording [])).2.world.calls := by
  have hPrepend : session = (session.forget.recording []).prepend session.world.calls := by
    simp [Session.prepend, Session.recording, Session.forget]
  exact congrArg (·.world.calls) (h (session.forget.recording []) session hPrepend).2

theorem UpdateFile.apply_recording (settings : BlockSettings) (lines : List SourceLine)
    (session : Session σ) :
    (UpdateFile.apply backend.recorded settings lines (session.recording calls)).2.world.calls =
      calls ++ UpdateFile.calls backend settings lines session :=
  Session.recorded_calls (session.recording calls)
    ((backend.recorded_prepends calls).aligned settings (items lines)).file

end Prepend

end ValidityTables
