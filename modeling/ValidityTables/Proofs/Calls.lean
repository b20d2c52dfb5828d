import ValidityTables.Updater

/-! # Calls of services

A run reaches the world only through its services, and what it did is the list of its calls with
their answers. A path says how the world goes on with such calls. Services can be made to record
their calls; `Path.recorded` says that the record is exactly the calls of the path.
-/

namespace ValidityTables

variable {σ : Type}

/-- A call of a service with its answer. -/
inductive Call
  | execute (sql : String) (answer : Except UpdateError Reply)
  | allocate (table : String) (scope : Scope) (answer : Except UpdateError UInt32)
  | clock (date : String)

/-- The world goes on with these calls and answers. -/
inductive Path (services : Services σ) : σ → List Call → σ → Prop
  | nil (world : σ) : Path services world [] world
  | execute {sql : String} {answer : Except UpdateError Reply} {world middle after : σ}
      {calls : List Call} : services.execute sql world = (answer, middle) →
      Path services middle calls after → Path services world (.execute sql answer :: calls) after
  | allocate {table : String} {scope : Scope} {answer : Except UpdateError UInt32}
      {world middle after : σ} {calls : List Call} :
      services.allocate table scope world = (answer, middle) →
      Path services middle calls after →
      Path services world (.allocate table scope answer :: calls) after
  | clock {date : String} {world middle after : σ} {calls : List Call} :
      services.now world = (date, middle) → Path services middle calls after →
      Path services world (.clock date :: calls) after

theorem Path.append {services : Services σ} {world middle after : σ} {before later : List Call}
    (h : Path services world before middle) (hLater : Path services middle later after) :
    Path services world (before ++ later) after := by
  induction h with
  | nil => exact hLater
  | execute hAnswer _ ih => exact .execute hAnswer (ih hLater)
  | allocate hAnswer _ ih => exact .allocate hAnswer (ih hLater)
  | clock hDate _ ih => exact .clock hDate (ih hLater)

theorem Path.split {services : Services σ} {world after : σ} {before later : List Call}
    (h : Path services world (before ++ later) after) :
    ∃ middle, Path services world before middle ∧ Path services middle later after := by
  induction before generalizing world with
  | nil => exact ⟨world, .nil world, h⟩
  | cons call rest ih =>
    cases h with
    | execute hAnswer hRest | allocate hAnswer hRest | clock hAnswer hRest =>
      obtain ⟨middle, hBefore, hLater⟩ := ih hRest
      exact ⟨middle, by constructor <;> assumption, hLater⟩

/-- A world with the calls that were made in it, the first one first. -/
structure Recorded (σ : Type) where
  world : σ
  calls : List Call := []

def Recorded.add (recorded : Recorded σ) (call : Call) (world : σ) : Recorded σ where
  world
  calls := recorded.calls ++ [call]

/-- The same services, recording their calls. -/
def Services.recorded (services : Services σ) : Services (Recorded σ) where
  execute sql recorded :=
    let (answer, world) := services.execute sql recorded.world
    (answer, recorded.add (.execute sql answer) world)
  probe table recorded := services.probe table recorded.world
  allocate table scope recorded :=
    let (answer, world) := services.allocate table scope recorded.world
    (answer, recorded.add (.allocate table scope answer) world)
  now recorded :=
    let (date, world) := services.now recorded.world
    (date, recorded.add (.clock date) world)

def Backend.recorded (backend : Backend σ) : Backend (Recorded σ) where
  services := backend.services.recorded
  maxAttempts := backend.maxAttempts
  mode := backend.mode

/-- The same updater, recording the calls of its backend. -/
def Updater.recorded (updater : Updater σ) : Updater (Recorded σ) where
  config := updater.config
  backend := updater.backend.recorded

@[simp] theorem Updater.recorded_backend (updater : Updater σ) :
    updater.recorded.backend = updater.backend.recorded := rfl

@[simp] theorem Backend.recorded_mode (backend : Backend σ) :
    backend.recorded.mode = backend.mode := rfl

@[simp] theorem Backend.recorded_probe (backend : Backend σ) (table : String)
    (recorded : Recorded σ) : backend.recorded.services.probe table recorded =
      backend.services.probe table recorded.world := rfl

theorem Path.recorded {services : Services σ} {before after : Recorded σ} {calls : List Call}
    (h : Path services.recorded before calls after) : after.calls = before.calls ++ calls := by
  induction h with
  | nil => simp
  | execute hAnswer _ ih => cases hAnswer; simp [ih, Recorded.add]
  | allocate hAnswer _ ih => cases hAnswer; simp [ih, Recorded.add]
  | clock hDate _ ih => cases hDate; simp [ih, Recorded.add]

theorem Path.forget {services : Services σ} {before after : Recorded σ} {calls : List Call}
    (h : Path services.recorded before calls after) :
    Path services before.world calls after.world := by
  induction h with
  | nil => exact .nil _
  | execute hAnswer _ ih => cases hAnswer; exact .execute rfl ih
  | allocate hAnswer _ ih => cases hAnswer; exact .allocate rfl ih
  | clock hDate _ ih => cases hDate; exact .clock rfl ih

end ValidityTables
