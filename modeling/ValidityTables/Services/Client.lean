import ValidityTables.Host
import ValidityTables.Services
import ValidityTables.Text.Blank
import ValidityTables.Text.Lines

/-!
# The client program

A program that is started anew for each statement and reads it from its input. What it prints on its
two outputs is its answer.
-/

namespace ValidityTables.Client

def outputLines (bytes : List UInt8) : List String :=
  (Text.lines (Text.Utf8.decodeReplacing bytes)).map fun line => String.ofList (Text.trim line)

def reply (finished : Finished) : Reply where
  exitCode := finished.exitCode
  lines := outputLines finished.stdout ++ outputLines finished.stderr

def execute (program : String) (arguments : List String) (sql : String) (host : Host) :
    Except UpdateError Reply × Host :=
  match host.runProgram program arguments (Text.Utf8.encode sql) with
  | (.ok finished, host) => (.ok (reply finished), host)
  | (.error fault, host) => (.error (.spawn program fault), host)

end ValidityTables.Client
