import ValidityTables.Shell.Syntax

/-!
# The source of commands

The text that commands are read from, and what the reader keeps in mind: the line it is on, the word
or operator that it saw last, and the documents that stand after the current line.
-/

namespace ValidityTables.Shell

inductive Keyword
  | negate
  | case
  | doLoop
  | done
  | elseIf
  | otherwise
  | endCase
  | endIf
  | forEach
  | ifThen
  | inWords
  | thenDo
  | untilTrue
  | whileTrue
  | openBrace
  | closeBrace
  deriving DecidableEq, Repr

def Keyword.all : List Keyword :=
  [.negate, .case, .doLoop, .done, .elseIf, .otherwise, .endCase, .endIf, .forEach, .ifThen,
    .inWords, .thenDo, .untilTrue, .whileTrue, .openBrace, .closeBrace]

def Keyword.text : Keyword → String
  | .negate => "!"
  | .case => "case"
  | .doLoop => "do"
  | .done => "done"
  | .elseIf => "elif"
  | .otherwise => "else"
  | .endCase => "esac"
  | .endIf => "fi"
  | .forEach => "for"
  | .ifThen => "if"
  | .inWords => "in"
  | .thenDo => "then"
  | .untilTrue => "until"
  | .whileTrue => "while"
  | .openBrace => "\x7b"
  | .closeBrace => "\x7d"

def Keyword.endsList : Keyword → Bool
  | .doLoop | .done | .elseIf | .otherwise | .endCase | .endIf | .thenDo | .closeBrace => true
  | _ => false

inductive Token
  | endOfFile
  | newline
  | semicolon
  | ampersand
  | bothAmpersands
  | bothBars
  | bar
  | openParen
  | closeParen
  | bothSemicolons
  | word
  | redirection
  | keyword (keyword : Keyword)
  deriving DecidableEq, Repr

def Token.text : Token → String
  | .endOfFile => "end of file"
  | .newline => "newline"
  | .semicolon => "\";\""
  | .ampersand => "\"&\""
  | .bothAmpersands => "\"&&\""
  | .bothBars => "\"||\""
  | .bar => "\"|\""
  | .openParen => "\"(\""
  | .closeParen => "\")\""
  | .bothSemicolons => "\";;\""
  | .word => "word"
  | .redirection => "redirection"
  | .keyword k => "\"" ++ k.text ++ "\""

def Token.endsList : Token → Bool
  | .endOfFile | .closeParen | .bothSemicolons => true
  | .keyword k => k.endsList
  | _ => false

structure Expectation where
  skipNewlines : Bool := false
  keywords : Bool := false
  aliases : Bool := false
  deriving DecidableEq, Repr

inductive RedirectionKind
  | file (use : FileUse)
  | duplicate
  | document (stripTabs : Bool)
  deriving DecidableEq, Repr

structure PendingDocument where
  number : Nat
  stripTabs : Bool
  expanded : Bool
  ending : Octets

structure Source where
  unread : Octets
  line : Nat := 1
  bound : Nat
  token : Token := .newline
  pushedBack : Bool := false
  expectation : Expectation := {}
  word : Word := []
  quoted : Bool := false
  redirection : Nat × RedirectionKind := (0, .duplicate)
  pending : List PendingDocument := []
  documents : List (Nat × Document) := []
  nextDocument : Nat := 0
  aliases : List (Octets × Octets) := []
  /-- The aliases whose text is being read, with how much was unread before it. -/
  openAliases : List (Octets × Nat) := []

structure SyntaxError where
  line : Nat
  message : String

abbrev Reader (α : Type) : Type := ExceptT SyntaxError (StateM Source) α

namespace Source

def ofText (text : Octets) (nextDocument : Nat) : Source where
  unread := text
  bound := text.length + 2
  nextDocument

def messageLimit : Nat := 63

def fail {α : Type} (message : String) : Reader α := do
  throw { line := (← get).line, message }

def failUnexpected {α : Type} (expected : Option Token := none) : Reader α := do
  let message := (← get).token.text ++ " unexpected" ++ match expected with
    | some token => " (expecting " ++ token.text ++ ")"
    | none => ""
  fail (String.ofList (message.toList.take messageLimit))

def next : Reader (Option Char) := do
  let source ← get
  match source.unread with
  | [] => return none
  | c :: cs => do
    set { source with
      unread := cs
      line := if c == '\n' then source.line + 1 else source.line }
    return some c

def giveBack (c : Option Char) : Reader Unit :=
  match c with
  | none => pure ()
  | some c => modify fun source => { source with
      unread := c :: source.unread
      line := if c == '\n' then source.line - 1 else source.line }

/-- Does not count a character that was taken as a line end. -/
def uncount (c : Option Char) : Reader Unit := modify fun source =>
  if c = some '\n' then { source with line := source.line - 1 } else source

/-- Drops backslashes with line ends after them; each is two characters, which bounds their
number. -/
def dropJoins : Nat → Octets → Octets × Nat
  | 0, text => (text, 0)
  | bound + 1, '\\' :: '\n' :: cs =>
    let (rest, count) := dropJoins bound cs
    (rest, count + 1)
  | _, text => (text, 0)

/-- Takes the next character, where a backslash and the line end after it count as nothing. -/
def nextJoined : Reader (Option Char) := do
  let source ← get
  match source.unread with
  | '\\' :: '\n' :: _ => do
    let (unread, count) := dropJoins source.bound source.unread
    set { source with unread, line := source.line + count }
    next
  | _ => next

def takeWhile (wanted : Char → Bool) (taken : Octets) : Nat → Option Char →
    Reader (Octets × Option Char)
  | 0, c => return (taken.reverse, c)
  | bound + 1, c => do
    match c with
    | some d =>
      if wanted d then takeWhile wanted (d :: taken) bound (← nextJoined)
      else return (taken.reverse, c)
    | none => return (taken.reverse, c)

end Source

end ValidityTables.Shell
