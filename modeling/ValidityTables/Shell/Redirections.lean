import ValidityTables.Shell.Expansion

/-!
# Redirections

Before a command runs, files are opened for it, and descriptors stand for other channels. Afterwards
the descriptors are what they were before.
-/

namespace ValidityTables.Shell.Redirections

open Run

/-- A redirection whose words are expanded. Documents are expanded when their turn comes. -/
inductive Opened
  | file (use : FileUse) (path : Octets)
  | descriptor (number : Nat)
  | closed
  | document (number : Nat)

def descriptorOf (text : Octets) : Run Opened := do
  match text with
  | [c] =>
    if c.isDigit then return .descriptor (c.toNat - 48)
    else if c == '-' then return .closed
    else failNumber
  | _ => failNumber
where
  failNumber : Run Opened := do
    setStatus 2
    warnAt ((← get).reached.head?.getD 1) "Syntax error: Bad fd number".toList
    throw .fault

def expand (output : CommandOutput) : Redirection → Run (Nat × Opened)
  | .mk descriptor target => do
    match target with
    | .file use name => do
      return (descriptor, .file use (← Expansion.text output { tilde := true } name))
    | .descriptor number => return (descriptor, .descriptor number)
    | .closed => return (descriptor, .closed)
    | .descriptorOf word => do
      return (descriptor, ← descriptorOf (← Expansion.text output { tilde := true } word))
    | .document number => return (descriptor, .document number)

def documentText (output : CommandOutput) (number : Nat) : Run Octets := do
  match (← get).documents.lookup number with
  | none => return []
  | some document =>
    if document.expanded then
      return Stretch.text
        (← Expansion.expandParts output { quoted := true } false false document.text)
    else return document.text.flatMap fun part => match part with
      | .literal _ text => text
      | _ => []

def faultText (absent : String) (fault : SystemFault) : Octets :=
  (if fault = .notFound ∨ fault = .notDirectory then absent else fault.text).toList

def openFile (use : FileUse) (path : Octets) : Run Nat := do
  let state ← get
  let place := state.world.tree.resolve (state.descriptors.map (·.1)) state.directory path
  let isThere := match place with
    | .ok (.present _ _) => true
    | _ => false
  let opening : World.Opening := match use with
    | .read => .toRead
    | .write =>
      if !state.hasOption 'C' then .toWrite
      else .toCreate
    | .overwrite => .toWrite
    | .append => .toAppend
    | .readAndWrite => .toReadAndWrite
  match state.world.openPath state.asProcess opening path with
  | .ok (id, world) => do
    set { state with world }
    return id
  | .error fault =>
    let (verb, absent) := match use with
      | .read => ("open ", "No such file")
      | .write =>
        if state.hasOption 'C' && isThere && fault != .alreadyThere then ("open ", "No such file")
        else ("create ", "Directory nonexistent")
      | _ => ("create ", "Directory nonexistent")
    fail (("cannot " ++ verb).toList ++ path ++ ": ".toList ++ faultText absent fault)

def setDescriptor (descriptor id : Nat) : Run Unit := modify fun state =>
  { state with descriptors := assign descriptor id state.descriptors }

def closeDescriptor (descriptor : Nat) : Run Unit := modify fun state =>
  { state with descriptors := unassign descriptor state.descriptors }

/-- Does what a redirection asks for. If the descriptor has just been saved, it stands for nothing
until it gets its new channel, so that nothing is reported where it is the one for errors. -/
def apply (output : CommandOutput) (saved : Bool) (descriptor : Nat) : Opened → Run Unit
  | .file use path => do setDescriptor descriptor (← openFile use path)
  | .closed => closeDescriptor descriptor
  | .descriptor number => do
    if number != descriptor then
      if saved then closeDescriptor descriptor
      match (← get).descriptors.lookup number with
      | some id => setDescriptor descriptor id
      | none => fail (Octets.ofNat number ++ ": ".toList ++ SystemFault.badDescriptor.text.toList)
  | .document number => do
    let text ← documentText output number
    let state ← get
    let (id, world) := state.world.add (.source text)
    set { state with world }
    setDescriptor descriptor id

def applyAll (output : CommandOutput) : List (Nat × Opened) → Run Unit
  | [] => pure ()
  | (descriptor, target) :: rest => apply output false descriptor target *> applyAll output rest

def applySaving (output : CommandOutput) (saved : List Nat) : List (Nat × Opened) → Run Unit
  | [] => pure ()
  | (descriptor, target) :: rest => do
    apply output (!saved.contains descriptor) descriptor target
    applySaving output (descriptor :: saved) rest

/-- Does redirections. Where one of them cannot be done, the error is reported and the
result is its status. -/
def attemptAll (output : CommandOutput) (opened : List (Nat × Opened)) : Run Nat := do
  match ← attempt (applySaving output [] opened) with
  | .ok () => return 0
  | .error .fault => return 2
  | .error stop => throw stop

end ValidityTables.Shell.Redirections
