import ValidityTables.Host.Files

/-!
# Files and channels

What all programs of a host share: its files, and the channels that they read and write. A program
sees a channel under small numbers, its descriptors; several numbers can stand for one channel.
-/

namespace ValidityTables

structure FileAccess where
  reads : Bool
  writes : Bool
  appends : Bool := false
  deriving DecidableEq, Repr

inductive Channel
  | source (unread : Octets)
  /-- The end of a pipe that is written: what was written, last piece first. -/
  | sink (written : List Octets)
  | file (place : Place) (position : Nat) (access : FileAccess)
  | directory
  | device (device : Device) (access : FileAccess)
  deriving DecidableEq, Repr

structure World where
  tree : FileTree
  channels : Array Channel := #[]
  started : Nat := 4241
  /-- Signals that were sent and not yet noticed: to which program, and their numbers. -/
  signals : List (Nat × Nat) := []

inductive Ending
  | exited (status : Nat)
  | signalled (signal : Nat)
  deriving DecidableEq, Repr

structure Process where
  descriptors : List (Nat × Nat)
  directory : Place
  environment : List (Octets × Octets)
  parents : List Nat := []

namespace World

def start (world : World) : Nat × World :=
  (world.started + 1, { world with started := world.started + 1 })

def send (program signal : Nat) (world : World) : World :=
  { world with signals := world.signals ++ [(program, signal)] }

/-- The signals that were sent to a program, which then counts as having noticed them. -/
def takeSignals (program : Nat) (world : World) : List Nat × World :=
  let (mine, others) := world.signals.partition (·.1 = program)
  (mine.map (·.2), { world with signals := others })

def add (channel : Channel) (world : World) : Nat × World :=
  (world.channels.size, { world with channels := world.channels.push channel })

def channel? (world : World) (id : Nat) : Option Channel := world.channels[id]?

def setChannel (id : Nat) (channel : Channel) (world : World) : World :=
  { world with channels := world.channels.setIfInBounds id channel }

def content (world : World) (place : Place) : Octets :=
  match world.tree.entries.lookup place with
  | some (.file content _) => content
  | _ => []

def setContent (place : Place) (content : Octets) (world : World) : World :=
  let executable := match world.tree.entries.lookup place with
    | some (.file _ executable) => executable
    | _ => false
  { world with tree := world.tree.put place (.file content executable) }

def write (id : Nat) (text : Octets) (world : World) : Except SystemFault World :=
  match world.channel? id with
  | some (.sink written) =>
    .ok (if text.isEmpty then world else world.setChannel id (.sink (text :: written)))
  | some (.file place position access) =>
    if !access.writes then .error .badDescriptor
    else
      let content := world.content place
      let start := if access.appends then content.length else position
      let filled := content.take start ++ List.replicate (start - content.length) '\x00'
      let world := world.setContent place (filled ++ text ++ content.drop (start + text.length))
      .ok (world.setChannel id (.file place (start + text.length) access))
  | some (.device device access) =>
    if !access.writes then .error .badDescriptor
    else if device = .full && !text.isEmpty then .error .noSpace
    else .ok world
  | some (.source _) | some .directory | none => .error .badDescriptor

def unread (id : Nat) (world : World) : Except SystemFault Octets :=
  match world.channel? id with
  | some (.source unread) => .ok unread
  | some (.file place position access) =>
    if access.reads then .ok ((world.content place).drop position) else .error .badDescriptor
  | some (.device _ access) => if access.reads then .ok [] else .error .badDescriptor
  | some .directory => .error .isDirectory
  | some (.sink _) | none => .error .badDescriptor

def skip (id : Nat) (count : Nat) (world : World) : World :=
  match world.channel? id with
  | some (.source unread) => world.setChannel id (.source (unread.drop count))
  | some (.file place position access) =>
    world.setChannel id (.file place (position + count) access)
  | _ => world

def written (id : Nat) (world : World) : Octets :=
  match world.channel? id with
  | some (.sink written) => written.reverse.flatten
  | _ => []

inductive Opening
  | toRead
  | toWrite
  | toCreate
  | toAppend
  | toReadAndWrite
  deriving DecidableEq, Repr

def Opening.access : Opening → FileAccess
  | .toRead => { reads := true, writes := false }
  | .toWrite | .toCreate => { reads := false, writes := true }
  | .toAppend => { reads := false, writes := true, appends := true }
  | .toReadAndWrite => { reads := true, writes := true }

def openNode (process : Process) (opening : Opening) (place : Place) (world : World) :
    Node → Except SystemFault (Nat × World)
  | .file _ _ =>
    let world := if opening = .toWrite then world.setContent place [] else world
    .ok (world.add (.file place 0 opening.access))
  | .device .terminal => .error .noDevice
  | .device device => .ok (world.add (.device device opening.access))
  | .directory => if opening = .toRead then .ok (world.add .directory) else .error .isDirectory
  | .program _ => .ok (world.add (.device .null opening.access))
  | .link _ => .error .tooManyLinks
  | .descriptor number =>
    match process.descriptors.lookup number with
    | none => .error .notFound
    | some id =>
      match world.channel? id with
      | some (.file place _ _) =>
        let world := if opening = .toWrite then world.setContent place [] else world
        .ok (world.add (.file place 0 opening.access))
      | some (.device device _) => .ok (world.add (.device device opening.access))
      | _ => .ok (id, world)

def openPath (process : Process) (opening : Opening) (path : Octets) (world : World) :
    Except SystemFault (Nat × World) :=
  match world.tree.resolve (process.descriptors.map (·.1)) process.directory path with
  | .error fault => .error fault
  | .ok (.absent place) =>
    if opening = .toRead then .error .notFound
    else .ok ((world.setContent place []).add (.file place 0 opening.access))
  | .ok (.present place node) =>
    match opening, node with
    | .toCreate, .file _ _ => .error .alreadyThere
    | _, _ => world.openNode process opening place node

end World

end ValidityTables
