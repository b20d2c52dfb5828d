import ValidityTables.Error
import ValidityTables.Text.Blank
import ValidityTables.Text.Utf8

/-!
# Asking for confirmation

A question is asked until a line of the input decides it. The end of the input is a refusal.
-/

namespace ValidityTables.CommandLine

def decision? (line : List Char) : Option Bool :=
  match String.ofList ((Text.trim line).map Char.toLower) with
  | "y" | "yes" => some true
  | "n" | "no" => some false
  | _ => none

/-- The outcome of a question: the answer, how often the question was asked, and the lines that were
not read. -/
structure Confirmation where
  answer : Except IoFault Bool
  asked : Nat
  unread : List (List UInt8)

/-- Asks a question that was asked before as often as `asked` says. -/
def confirmFrom (asked : Nat) : List (List UInt8) → Confirmation
  | [] => { answer := .ok false, asked := asked + 1, unread := [] }
  | line :: unread =>
    match Text.Utf8.decode? line with
    | none => { answer := .error .invalidUtf8, asked := asked + 1, unread }
    | some cs =>
      match decision? cs with
      | some answer => { answer := .ok answer, asked := asked + 1, unread }
      | none => confirmFrom (asked + 1) unread

def confirm (lines : List (List UInt8)) : Confirmation := confirmFrom 0 lines

def prompt (question : String) : String := question ++ " [y/n] "

end ValidityTables.CommandLine
