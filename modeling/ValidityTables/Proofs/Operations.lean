import ValidityTables.Proofs.Recording

/-! # Programs over an updater

A caller drives an updater by operations in any order: files are applied, blocks are begun, take
rows and are applied, statements are run and tables are asked for and dropped. What the caller can
see after each operation is an observation.
-/

namespace ValidityTables

variable {τ σ : Type}

/-- Blocks are numbered in the order in which they were begun. -/
inductive Operation
  | applyFile (scope : Scope) (source : Except IoFault (List SourceLine))
  | begin (settings : BlockSettings) (line : String)
  | addRow (index : Nat) (line : String)
  | applyBlock (index : Nat) (inserted : String)
  | query (sql : String)
  | tableExists (table : String)
  | isAuthorising
  | dropTable (name : String)

inductive Outcome
  | file (result : Except UpdateError ApplyReport)
  | begun (result : Except UpdateError Unit)
  | row (result : Except UpdateError Unit)
  | block (result : Except UpdateError BlockReport)
  | output (result : Except UpdateError (List String))
  | found (result : Except UpdateError Bool)
  | dropped (result : Except UpdateError DropReport)
  | noSuchBlock

structure Observation where
  outcome : Outcome
  blocks : List Block
  results : List String
  executed : Nat
  counters : SequenceCounters

namespace Updater

variable (updater : Updater σ)

def perform (blocks : List Block) : Operation → StateM (Session σ) (Outcome × List Block)
  | .applyFile scope source => do
    return (.file (← (updater.applySource scope source).run), blocks)
  | .begin settings line => do
    match ← (Block.begin updater.backend settings line).run with
    | .ok block => return (.begun (.ok ()), blocks ++ [block])
    | .error e => return (.begun (.error e), blocks)
  | .addRow index line =>
    match blocks[index]? with
    | none => return (.noSuchBlock, blocks)
    | some block =>
      match block.addRow line with
      | .ok block => return (.row (.ok ()), blocks.set index block)
      | .error e => return (.row (.error e), blocks)
  | .applyBlock index inserted =>
    match blocks[index]? with
    | none => return (.noSuchBlock, blocks)
    | some block => do
      let (result, block) ← block.applyAt updater.backend inserted
      return (.block result, blocks.set index block)
  | .query sql => do return (.output (← (updater.backend.query sql).run), blocks)
  | .tableExists table => do return (.found (← (updater.backend.tableExists table).run), blocks)
  | .isAuthorising => do return (.found (← updater.isAuthorising.run), blocks)
  | .dropTable name => do return (.dropped (← (updater.dropTable name).run), blocks)

def observe (outcome : Outcome) (blocks : List Block) : StateM (Session σ) Observation :=
  fun session =>
    ({ outcome, blocks, results := session.results, executed := session.executed,
       counters := session.counters }, session)

/-- Performs operations one after another, and gives the blocks as they are in the end. -/
def performAll (blocks : List Block) :
    List Operation → StateM (Session σ) (List Observation × List Block)
  | [] => return ([], blocks)
  | operation :: rest => do
    let (outcome, blocks) ← updater.perform blocks operation
    let observation ← observe outcome blocks
    let (later, blocks) ← performAll blocks rest
    return (observation :: later, blocks)

section Corresponds

variable {R : Session τ → Session σ → Prop} {first : Backend τ} {second : Backend σ}

theorem perform_corresponds (h : Backend.Matches R first second) (config : Config)
    (blocks : List Block) (operation : Operation) :
    Corresponds R (perform ⟨config, first⟩ blocks operation)
      (perform ⟨config, second⟩ blocks operation) := by
  cases operation with
  | applyFile scope source =>
    exact .bind (applySource_corresponds h config scope source) fun _ => .pure _
  | begin settings line =>
    refine .bind (h.begin settings line) fun begun => ?_
    cases begun <;> exact .pure _
  | addRow index line =>
    simp only [perform]
    cases blocks[index]? with
    | none => exact .pure _
    | some block =>
      simp only
      cases block.addRow line <;> exact .pure _
  | applyBlock index inserted =>
    simp only [perform]
    cases blocks[index]? with
    | none => exact .pure _
    | some block => exact (h.applyAt inserted block).bind fun _ => .pure _
  | query sql => exact .bind (h.query sql) fun _ => .pure _
  | tableExists table => exact .bind (h.tableExists table) fun _ => .pure _
  | isAuthorising => exact .bind (h.tableExists globalSequenceTable) fun _ => .pure _
  | dropTable name => exact .bind (dropTable_corresponds h config name) fun _ => .pure _

/-- If related sessions look alike, a program makes the same observations in both runs. -/
theorem performAll_corresponds (h : Backend.Matches R first second)
    (hAlike : ∀ {session other}, R session other →
      other.results = session.results ∧ other.executed = session.executed)
    (config : Config) (blocks : List Block) (operations : List Operation) :
    Corresponds R (performAll ⟨config, first⟩ blocks operations)
      (performAll ⟨config, second⟩ blocks operations) := by
  induction operations generalizing blocks with
  | nil => exact .pure _
  | cons operation rest ih =>
    refine (perform_corresponds h config blocks operation).bind fun (outcome, blocks) => ?_
    have hObserve : Corresponds R (observe outcome blocks) (observe outcome blocks) := by
      intro session other hRelated
      obtain ⟨hResults, hExecuted⟩ := hAlike hRelated
      refine ⟨?_, hRelated⟩
      simp only [observe, hResults, hExecuted, h.counters hRelated]
    exact hObserve.bind fun observation => (ih blocks).bind fun _ => .pure _

end Corresponds

/-- The calls that a program makes. -/
def calls (blocks : List Block) (operations : List Operation) (session : Session σ) : List Call :=
  (updater.recorded.performAll blocks operations (session.recording [])).2.world.calls

theorem isAuthorising_mirrors : Mirrors updater.recorded.isAuthorising updater.isAuthorising :=
  mirrors_iff.mpr (updater.backend.recorded_matches.tableExists globalSequenceTable)

theorem checkScope_mirrors (scope : Scope) :
    Mirrors (updater.recorded.checkScope scope) (updater.checkScope scope) :=
  mirrors_iff.mpr (checkScope_corresponds updater.backend.recorded_matches updater.config scope)

theorem dropTable_mirrors (name : String) :
    Mirrors (updater.recorded.dropTable name) (updater.dropTable name) :=
  mirrors_iff.mpr (dropTable_corresponds updater.backend.recorded_matches updater.config name)

theorem perform_mirrors (blocks : List Block) (operation : Operation) :
    Mirrors (updater.recorded.perform blocks operation) (updater.perform blocks operation) :=
  mirrors_iff.mpr
    (perform_corresponds updater.backend.recorded_matches updater.config blocks operation)

theorem performAll_mirrors (blocks : List Block) (operations : List Operation) :
    Mirrors (updater.recorded.performAll blocks operations)
      (updater.performAll blocks operations) :=
  mirrors_iff.mpr (performAll_corresponds updater.backend.recorded_matches
    (fun h => h ▸ ⟨rfl, rfl⟩) updater.config blocks operations)

end Updater

end ValidityTables
