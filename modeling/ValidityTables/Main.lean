import ValidityTables.Calendar
import ValidityTables.CommandLine

/-!
# The program

Gathers what a run needs from the system, runs the command line on it, and prints what it leaves
behind.
-/

namespace ValidityTables

/-- The seconds since the beginning of 1970, as the file system dates a file that is written now. -/
def currentSeconds : IO Int := do
  let (_, path) ← IO.FS.createTempFile
  let metadata ← path.metadata
  IO.FS.removeFile path
  return metadata.modified.sec

def loadFiles (host : Host) (names : List String) : IO Host := do
  let mut host := host
  for name in names do
    if let .error (.system .notFound) := (host.readFile name).1 then
      try
        let content ← IO.FS.readBinFile name
        host := host.putFile name content.toList
      catch _ => pure ()
  return host

partial def readAll (stream : IO.FS.Stream) (content : ByteArray) : IO ByteArray := do
  let piece ← stream.read 4096
  if piece.isEmpty then return content else readAll stream (content ++ piece)

/-- Whether a run may look at its input: where it asks, and where a file that it reads is its
input. -/
def needsInput (invocation : CommandLine.Invocation) (host : Host) : Bool :=
  invocation.command.file?.isNone ||
    (CommandLine.filesNamed invocation).any fun name => (host.readFile name).1.toOption == some [0]

def gather (invocation : CommandLine.Invocation) : IO Host := do
  let account : Access.Variables := {
    url := ← IO.getEnv "ENV_TSQL_URL"
    user := ← IO.getEnv "ENV_TSQL_USER"
    password := ← IO.getEnv "ENV_TSQL_PSWD" }
  let date := Calendar.timestamp (← currentSeconds)
  let input ←
    if needsInput invocation (.ofInput account date [0]) then readAll (← IO.getStdin) .empty
    else pure .empty
  let host ← loadFiles (.ofInput account date input.toList) (CommandLine.filesNamed invocation)
  loadFiles host (CommandLine.programsNamed invocation host)

end ValidityTables

open ValidityTables in
def main (arguments : List String) : IO UInt32 := do
  let outcome ← match CommandLine.Invocation.read arguments with
    | .error refusal => pure (CommandLine.Outcome.ofRefusal refusal)
    | .ok invocation => do
      let host ← gather invocation
      pure (CommandLine.runInvocation invocation host)
  IO.print outcome.stdout
  IO.eprint outcome.stderr
  return UInt32.ofNat outcome.exitCode
