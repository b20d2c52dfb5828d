import ValidityTables.Proofs.Inventory
import ValidityTables.Proofs.StatementReader

/-! # Services that keep an inventory

The statements that look for a table, drop it or delete entries can be read back. So there are
services that do what they say over an inventory: some that never fail, and some that fail where a
schedule says so.
-/

namespace ValidityTables

theorem describe_ne_dropTable (table other : String) :
    describe table ≠ Statement.dropTable other := by
  intro hSame
  have hHead := congrArg (·.toList.head?) hSame
  simp [Statement.dropTable, describe] at hHead

theorem describe_ne_delete (table other name : String) :
    describe table ≠ Statement.deleteSequenceEntries other name := by
  intro hSame
  have hHead := congrArg (·.toList.head?) hSame
  simp [Statement.deleteSequenceEntries, describe] at hHead

/-- The text between a beginning and an end. -/
def between? (front back sql : String) : Option String :=
  match Header.dropMarker? front.toList sql.toList with
  | none => none
  | some rest => (Header.dropMarker? back.toList.reverse rest.reverse).map fun middle =>
    String.ofList middle.reverse

theorem between?_append {front middle back sql : String} (h : sql = front ++ middle ++ back) :
    between? front back sql = some middle := by
  have hText : sql.toList = front.toList ++ (middle.toList ++ back.toList) := by
    rw [h, String.toList_append, String.toList_append, List.append_assoc]
  rw [between?, hText, dropMarker?_append]
  simp only [List.reverse_append, dropMarker?_append, Option.map_some, List.reverse_reverse,
    String.ofList_toList]

theorem between?_other {front other back sql : String} (h : other.toList <+: sql.toList)
    (hApart : ∀ text, Header.dropMarker? front.toList (other.toList ++ text) = none) :
    between? front back sql = none := by
  obtain ⟨rest, hText⟩ := h
  rw [between?, ← hText, hApart]

theorem between?_dropTable {front : String} (back table : String)
    (hApart : ∀ text, Header.dropMarker? front.toList ("DROP TABLE ".toList ++ text) = none) :
    between? front back (Statement.dropTable table) = none := by
  refine between?_other ?_ hApart
  simp only [Statement.dropTable, String.toList_append, List.append_assoc]
  exact List.prefix_append _ _

def deletion (table : String) : String := "DELETE FROM " ++ table ++ " WHERE TABLENAME='"

theorem between?_delete {front table : String} (back name : String)
    (hApart : ∀ text, Header.dropMarker? front.toList ((deletion table).toList ++ text) = none) :
    between? front back (Statement.deleteSequenceEntries table name) = none := by
  have hText : Statement.deleteSequenceEntries table name = deletion table ++ name ++ "';" := rfl
  refine between?_other ?_ hApart
  rw [hText, String.toList_append, String.toList_append, List.append_assoc]
  exact List.prefix_append _ _

/-- The table that a statement needs, and what the statement does to an inventory. -/
def maintenance? (sql : String) : Option (String × (Inventory → Inventory)) :=
  match between? "describe " "" sql with
  | some table => some (table, fun inventory => inventory)
  | none =>
    match between? "DROP TABLE " ";" sql with
    | some table => some (table, fun inventory => inventory.drop [table])
    | none =>
      match between? (deletion localSequenceTable) "';" sql with
      | some name =>
        some (localSequenceTable, fun inventory => inventory.clear name [localSequenceTable])
      | none => (between? (deletion globalSequenceTable) "';" sql).map fun name =>
        (globalSequenceTable, fun inventory => inventory.clear name [globalSequenceTable])

theorem maintenance?_describe (table : String) :
    maintenance? (describe table) = some (table, fun inventory => inventory) := by
  have hRead : between? "describe " "" (describe table) = some table :=
    between?_append String.append_empty.symm
  rw [maintenance?, hRead]

theorem maintenance?_dropTable (table : String) :
    maintenance? (Statement.dropTable table) =
      some (table, fun inventory => inventory.drop [table]) := by
  have hRead : between? "DROP TABLE " ";" (Statement.dropTable table) = some table :=
    between?_append rfl
  rw [maintenance?, between?_dropTable "" table fun _ => rfl, hRead]

theorem maintenance?_delete {table : String} (h : table ∈ [localSequenceTable, globalSequenceTable])
    (name : String) :
    maintenance? (Statement.deleteSequenceEntries table name) =
      some (table, fun inventory => inventory.clear name [table]) := by
  have hRead : between? (deletion table) "';" (Statement.deleteSequenceEntries table name) =
      some name := between?_append rfl
  rw [maintenance?]
  obtain rfl | rfl : table = localSequenceTable ∨ table = globalSequenceTable := by simpa using h
  · rw [between?_delete "" name fun _ => rfl, between?_delete ";" name fun _ => rfl, hRead]
  · rw [between?_delete "" name fun _ => rfl, between?_delete ";" name fun _ => rfl,
      between?_delete "';" name fun _ => rfl, hRead]
    rfl

namespace Inventory

/-- Services that are no more than an inventory. A statement fails without its table. -/
def services : Services Inventory where
  execute sql inventory :=
    match maintenance? sql with
    | none => (.ok { exitCode := 1 }, inventory)
    | some (table, change) =>
      if inventory.has table then (.ok {}, change inventory)
      else (.ok { exitCode := 1 }, inventory)
  probe table _ := some (describe table)
  allocate table _ inventory := (.error (.allocation table "there is no allocator"), inventory)
  now inventory := ("2020-01-01 00:00:00", inventory)

section Services

variable {sql table : String} {change : Inventory → Inventory}

theorem execute_existing (h : maintenance? sql = some (table, change)) {inventory : Inventory}
    (hHas : inventory.has table = true) :
    services.execute sql inventory = (.ok {}, change inventory) := by
  simp only [services, h, hHas, if_true]

theorem execute_missing (h : maintenance? sql = some (table, change)) {inventory : Inventory}
    (hHas : inventory.has table = false) :
    services.execute sql inventory = (.ok { exitCode := 1 }, inventory) := by
  simp only [services, h, hHas, Bool.false_eq_true, if_false]

theorem effective (h : maintenance? sql = some (table, change)) :
    Effective services id sql fun before after => after = change before where
  succeeded {world reply after} hAnswer hSucceeded := by
    cases hHas : world.has table with
    | true =>
      rw [execute_existing h hHas] at hAnswer
      cases hAnswer
      rfl
    | false =>
      rw [execute_missing h hHas] at hAnswer
      cases hAnswer
      cases hSucceeded
  failed {world answer after} hAnswer hFailed := by
    cases hHas : world.has table with
    | true =>
      rw [execute_existing h hHas] at hAnswer
      cases hAnswer
      cases hFailed _ rfl
    | false =>
      rw [execute_missing h hHas] at hAnswer
      cases hAnswer
      rfl

end Services

theorem services_inventoried : Inventoried services id describe where
  probe _ _ := rfl
  look_ne_dropTable := describe_ne_dropTable
  look_ne_delete := describe_ne_delete
  described {table world answer after} hAnswer := by
    cases hHas : world.has table with
    | true =>
      rw [execute_existing (maintenance?_describe table) hHas] at hAnswer
      cases hAnswer
      refine ⟨rfl, ?_, nofun⟩
      rintro _ ⟨⟩ -
      exact hHas.symm
    | false =>
      rw [execute_missing (maintenance?_describe table) hHas] at hAnswer
      cases hAnswer
      refine ⟨rfl, ?_, nofun⟩
      rintro _ ⟨⟩ -
      exact hHas.symm
  dropped table := effective (maintenance?_dropTable table)
  cleared name _ h := effective (maintenance?_delete h name)

theorem services_faultless : Faultless services id describe where
  toInventoried := services_inventoried
  told table world := by
    cases hHas : world.has table with
    | true => exact ⟨_, _, execute_existing (maintenance?_describe table) hHas, rfl⟩
    | false => exact ⟨_, _, execute_missing (maintenance?_describe table) hHas, rfl⟩
  drops table world hHas :=
    ⟨_, _, execute_existing (maintenance?_dropTable table) hHas, rfl⟩
  clears name _ h world hHas := ⟨_, _, execute_existing (maintenance?_delete h name) hHas, rfl⟩

end Inventory

inductive Outage
  | rejected
  | lost
  | unreachable

def Outage.answer : Outage → Except UpdateError Reply
  | .rejected => .ok { exitCode := 1, lines := ["ERROR 1142 (42000): DROP command denied"] }
  | .lost => .ok { exitCode := 1, lines := ["ERROR 2006 (HY000): MySQL server has gone away"] }
  | .unreachable => .error (.spawn "mysql" (.other "resource temporarily unavailable"))

theorem Outage.answer_fails (outage : Outage) (reply : Reply) (h : outage.answer = .ok reply) :
    reply.succeeded = false := by
  cases outage <;> cases h <;> rfl

/-- An inventory, and which of the next statements fail that are no probes. -/
structure Outages where
  inventory : Inventory
  ahead : List (Option Outage)

namespace Outages

/-- What befalls a statement, and what is ahead after it. -/
def due (world : Outages) (sql : String) : Option Outage × List (Option Outage) :=
  match between? "describe " "" sql, world.ahead with
  | none, outage :: ahead => (outage, ahead)
  | _, ahead => (none, ahead)

def services : Services Outages where
  execute sql world :=
    match world.due sql with
    | (some outage, ahead) => (outage.answer, { world with ahead })
    | (none, ahead) =>
      let (answer, inventory) := Inventory.services.execute sql world.inventory
      (answer, { inventory, ahead })
  probe table _ := some (describe table)
  allocate table _ world := (.error (.allocation table "there is no allocator"), world)
  now world := ("2020-01-01 00:00:00", world)

theorem effective {sql : String} {effect : Inventory → Inventory → Prop}
    (h : Effective Inventory.services id sql effect) :
    Effective services Outages.inventory sql effect where
  succeeded {world reply after} hAnswer hSucceeded := by
    rcases hDue : world.due sql with ⟨_ | outage, ahead⟩
    · rcases hPlain : Inventory.services.execute sql world.inventory with ⟨answer, inventory⟩
      simp only [services, hDue, hPlain] at hAnswer
      cases hAnswer
      exact h.succeeded hPlain hSucceeded
    · simp only [services, hDue] at hAnswer
      have hFails := outage.answer_fails reply (congrArg Prod.fst hAnswer)
      rw [hFails] at hSucceeded
      cases hSucceeded
  failed {world answer after} hAnswer hFailed := by
    rcases hDue : world.due sql with ⟨_ | outage, ahead⟩
    · simp only [services, hDue] at hAnswer
      cases hAnswer
      exact h.failed rfl hFailed
    · simp only [services, hDue] at hAnswer
      cases hAnswer
      rfl

theorem services_inventoried : Inventoried services Outages.inventory describe where
  probe _ _ := rfl
  look_ne_dropTable := describe_ne_dropTable
  look_ne_delete := describe_ne_delete
  described {table world answer after} hAnswer := by
    have hRead : between? "describe " "" (describe table) = some table :=
      between?_append String.append_empty.symm
    have hDue : world.due (describe table) = (none, world.ahead) := by
      rw [due, hRead]
    simp only [services, hDue] at hAnswer
    cases hAnswer
    exact Inventory.services_inventoried.described rfl
  dropped table := effective (Inventory.services_inventoried.dropped table)
  cleared name table h := effective (Inventory.services_inventoried.cleared name table h)

end Outages

end ValidityTables
