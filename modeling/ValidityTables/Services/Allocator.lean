import ValidityTables.Host
import ValidityTables.Services
import ValidityTables.Text.Blank
import ValidityTables.Text.Lines

/-!
# The allocator program

A program that prints a sequence number on its last line. It is told the table, and whether the
number has to be unique in all stores.
-/

namespace ValidityTables.Allocator

open Text

/-- The first number in a line, unless it is zero, which stands for a failure. -/
def parseSeqno (line : List Char) : Option UInt32 :=
  match readNat (UInt32.size - 1) ((line.dropWhile (!isDigit ·)).takeWhile isDigit) with
  | .ok 0 => none
  | .ok n => some (UInt32.ofNat n)
  | .error _ => none

def scopeArgument : Scope → String
  | .globally => "1"
  | .locally => "-1"

def answer (table : String) (stdout : List UInt8) : Except UpdateError UInt32 :=
  let last := (lines (Utf8.decodeReplacing stdout)).getLast?.getD []
  match parseSeqno last with
  | some seqno => .ok seqno
  | none => .error (.allocation table
      ("no sequence number in allocator output '" ++ String.ofList (trim last) ++ "'"))

def allocate (program table : String) (scope : Scope) (host : Host) :
    Except UpdateError UInt32 × Host :=
  match host.runProgram program [table, scopeArgument scope] [] with
  | (.ok finished, host) => (answer table finished.stdout, host)
  | (.error fault, host) => (.error (.spawn program fault), host)

end ValidityTables.Allocator
