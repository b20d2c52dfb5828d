import ValidityTables.Text.Octets

/-!
# Shell commands

The syntax of the shell language: words with their quoting and expansions, redirections, and
commands.
-/

namespace ValidityTables.Shell

structure Trimming where
  atEnd : Bool
  longest : Bool
  deriving DecidableEq, Repr

inductive FileUse
  | read
  | write
  | overwrite
  | append
  | readAndWrite
  deriving DecidableEq, Repr

mutual

inductive Part
  | literal (quoted : Bool) (text : Octets)
  | mark
  /-- The value of a parameter. An empty value counts as unset if `emptyToo` says so. -/
  | parameter (name : Octets) (emptyToo : Bool) (action : Action)
  | command (body : Option Command)
  | arithmetic (expression : List Part)

inductive Action
  | value
  | length
  | orElse (word : List Part)
  | orAssign (word : List Part)
  | orFail (word : List Part)
  | ifSet (word : List Part)
  | trim (trimming : Trimming) (pattern : List Part)
  | meaningless (word : List Part)

inductive Target
  | file (use : FileUse) (name : List Part)
  | descriptor (number : Nat)
  | closed
  | descriptorOf (word : List Part)
  | document (number : Nat)

inductive Redirection
  | mk (descriptor : Nat) (target : Target)

inductive Command
  | simple (line : Nat) (assignments words : List (List Part)) (redirections : List Redirection)
  | pipeline (background : Bool) (commands : List Command)
  | inBackground (line : Nat) (body : Command) (redirections : List Redirection)
  | redirected (line : Nat) (body : Command) (redirections : List Redirection)
  | subshell (line : Nat) (body : Command) (redirections : List Redirection)
  | sequence (commands : List Command)
  | andThen (first second : Command)
  | orElse (first second : Command)
  | negation (body : Command)
  | conditional (condition consequence : Command) (alternative : Option Command)
  | loop (untilTrue : Bool) (condition body : Command)
  | each (line : Nat) (name : Octets) (words : List (List Part)) (body : Command)
  | choose (line : Nat) (subject : List Part) (branches : List (List (List Part) × Option Command))
  | define (name : Octets) (body : Command)

end

abbrev Word : Type := List Part

instance : Inhabited Command := ⟨.sequence []⟩

structure Document where
  expanded : Bool
  text : Word

namespace Word

def plain? : Word → Option Octets
  | [] => some []
  | .literal false text :: rest => (plain? rest).map (text ++ ·)
  | _ :: _ => none

def isNameStart (c : Char) : Bool := c.isAlpha || c == '_'

def isNameChar (c : Char) : Bool := c.isAlphanum || c == '_'

def isName (text : Octets) : Bool :=
  match text with
  | [] => true
  | c :: cs => isNameStart c && cs.all isNameChar

def assigns (text : Octets) : Bool :=
  match text with
  | [] => false
  | c :: cs => isNameStart c && (cs.dropWhile isNameChar).head? = some '='

def isAssignment : Word → Bool
  | .literal false text :: _ => assigns text
  | _ => false

end Word

end ValidityTables.Shell
