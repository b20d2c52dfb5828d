import ValidityTables.Error
import ValidityTables.Sequence

/-!
# What an update relies on

The client that runs statements, the program that allocates sequence numbers, and the clock. They
act on a state of their own, which an update passes along and does not look into.
-/

namespace ValidityTables

/-- What the client answered to a statement. Exit code zero means that the statement succeeded. -/
structure Reply where
  exitCode : Int := 0
  lines : List String := []
  deriving DecidableEq, Repr

namespace Reply

def succeeded (reply : Reply) : Bool := reply.exitCode == 0

def lostMarkers : List String := ["connection to MySQL server during", "server has gone away"]

def occursIn (part whole : List Char) : Bool :=
  part.isPrefixOf whole || match whole with
    | [] => false
    | _ :: rest => occursIn part rest

/-- Whether the statement failed because the connection was lost, so that it is worth a retry. -/
def connectionLost (reply : Reply) : Bool :=
  reply.exitCode == 1 &&
    reply.lines.any fun line => lostMarkers.any fun marker => occursIn marker.toList line.toList

end Reply

/-- The services of an update over a state `σ`. `execute` fails if the client cannot be reached at
all; `probe` is the statement whose success shows that a table exists, if there is one. -/
structure Services (σ : Type) where
  execute : String → σ → Except UpdateError Reply × σ
  probe : String → σ → Option String
  allocate : String → Scope → σ → Except UpdateError UInt32 × σ
  now : σ → String × σ

def describe (table : String) : String := "describe " ++ table

end ValidityTables
