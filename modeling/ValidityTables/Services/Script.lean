import ValidityTables.Services.Echo
import ValidityTables.Text.Lines

/-!
# Scripted services

Services that follow a script, to try out an update without a store. The client prints statements,
answers from a list, or answers by rules over a set of missing tables; the allocator hands out a
list of answers; the clock stands still. Everything that is asked of them is logged.
-/

namespace ValidityTables

/-- An answer to the statements that begin with `start`. The rule passes over the first `skip` of
them and then answers `times` of them, or all if there is no such number. -/
structure ScriptRule where
  start : String
  times : Option Nat
  skip : Nat
  answer : Except UpdateError Reply

structure ScriptedStore where
  rules : List ScriptRule := []
  missing : List String := []
  tracks : Bool := false
  probes : Bool := true
  output : List String := []

inductive ScriptedClient
  | echo
  | answers (left : List (Except UpdateError Reply)) (probes : Bool)
  | store (store : ScriptedStore)

structure Script where
  client : ScriptedClient
  allocations : List (Except String UInt32) := []
  date : String
  statements : Array String := #[]
  requests : Array (String × Scope) := #[]

namespace ScriptRule

def answer? (sql : String) : List ScriptRule → Option (Except UpdateError Reply) × List ScriptRule
  | [] => (none, [])
  | rule :: rest =>
    let passed := answer? sql rest
    if !rule.start.toList.isPrefixOf sql.toList || rule.times == some 0 then
      (passed.1, rule :: passed.2)
    else if rule.skip > 0 then
      (passed.1, { rule with skip := rule.skip - 1 } :: passed.2)
    else
      (some rule.answer, { rule with times := rule.times.map (· - 1) } :: rest)

end ScriptRule

namespace ScriptedStore

def described? (sql : String) : Option String :=
  let start := (describe "").toList
  if start.isPrefixOf sql.toList then some (String.ofList (sql.toList.drop start.length)) else none

def createdTable? (sql : String) : Option String :=
  let start := "CREATE TABLE ".toList
  let rest := sql.toList.drop start.length
  if start.isPrefixOf sql.toList && rest.contains ' ' then
    some (String.ofList (rest.takeWhile (· != ' ')))
  else none

def droppedTable? (sql : String) : Option String :=
  let start := "DROP TABLE ".toList
  if start.isPrefixOf sql.toList then
    match (sql.toList.drop start.length).reverse with
    | ';' :: name => some (String.ofList name.reverse)
    | _ => none
  else none

def track (store : ScriptedStore) (sql : String) : ScriptedStore :=
  if !store.tracks then store
  else match createdTable? sql with
    | some table => { store with missing := store.missing.filter (· != table) }
    | none =>
      match droppedTable? sql with
      | some table => { store with missing := table :: store.missing }
      | none => store

def execute (store : ScriptedStore) (sql : String) : Except UpdateError Reply × ScriptedStore :=
  let (answer, rules) := ScriptRule.answer? sql store.rules
  let store := { store with rules }
  match answer with
  | some answer => (answer, store)
  | none =>
    match described? sql with
    | some table =>
      if store.missing.contains table then
        (.ok { exitCode := 1, lines := ["Table '" ++ table ++ "' doesn't exist"] }, store)
      else (.ok {}, store)
    | none => (.ok { lines := store.output }, store.track sql)

end ScriptedStore

namespace Script

def print (text : String) (script : Script) : Script :=
  { script with
    statements := script.statements ++ ((Text.feedLines text.toList).map String.ofList) }

def execute (sql : String) (script : Script) : Except UpdateError Reply × Script :=
  match script.client with
  | .echo => Echo.execute print sql script
  | .answers left probes =>
    let script := { script with statements := script.statements.push sql }
    match left with
    | [] => (.ok {}, script)
    | answer :: left => (answer, { script with client := .answers left probes })
  | .store store =>
    let (answer, store) := store.execute sql
    (answer, { script with
      client := .store store
      statements := script.statements.push sql })

def probe (table : String) (script : Script) : Option String :=
  match script.client with
  | .echo => Echo.probe table script
  | .answers _ probes => if probes then some (describe table) else none
  | .store store => if store.probes then some (describe table) else none

def allocate (table : String) (scope : Scope) (script : Script) :
    Except UpdateError UInt32 × Script :=
  let script := { script with requests := script.requests.push (table, scope) }
  match script.allocations with
  | [] => (.error (.allocation table "no sequence number in allocator output"), script)
  | answer :: allocations =>
    (answer.mapError (.allocation table), { script with allocations })

def services : Services Script where
  execute
  probe
  allocate
  now script := (script.date, script)

def clearLog (script : Script) : Script := { script with statements := #[], requests := #[] }

end Script

end ValidityTables
