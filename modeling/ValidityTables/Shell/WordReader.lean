import ValidityTables.Shell.Source

/-!
# Reading words

A word is read up to the next character that ends it outside of quotes and braces. Quotation marks
change the meaning of what follows, braces and expressions open a level of their own, and commands
in a word are read by the reader of commands. The pieces come in a row at first; then those between
the start and the end of an expansion are gathered.
-/

namespace ValidityTables.Shell

open Source

inductive Quoting
  | unquoted
  | double
  | single
  | arithmetic
  deriving DecidableEq, Repr

inductive Meaning
  | lineEnd
  | itself
  | escape
  | openSingle
  | openDouble
  | closeQuote
  | expansion
  | closeBrace
  | openParen
  | closeParen
  | backquote
  | wordEnd
  deriving DecidableEq, Repr

def Quoting.meaning (quoting : Quoting) (c : Char) : Meaning :=
  match quoting, c with
  | _, '\n' => .lineEnd
  | .single, '\'' => .closeQuote
  | .single, _ => .itself
  | .double, '"' => .closeQuote
  | _, '\\' => .escape
  | _, '`' => .backquote
  | _, '$' => .expansion
  | _, '\x7d' => .closeBrace
  | .arithmetic, '(' => .openParen
  | .arithmetic, ')' => .closeParen
  | .unquoted, '\'' => .openSingle
  | .unquoted, '"' => .openDouble
  | .unquoted, _ => if "<>();&| \t".toList.contains c then .wordEnd else .itself
  | _, _ => .itself

structure Level where
  quoting : Quoting
  inDouble : Bool := false
  innerDouble : Bool := false
  braces : Nat := 0
  ofBraces : Bool := false
  /-- How many braces were opened between quotation marks. -/
  quotedBraces : Nat := 0
  parens : Nat := 0

inductive Operation
  | value
  | length
  | orElse
  | orAssign
  | orFail
  | ifSet
  | trim (trimming : Trimming)
  | meaningless
  deriving DecidableEq, Repr

def Operation.action : Operation → Word → Action
  | .value, _ => .value
  | .length, _ => .length
  | .orElse, word => .orElse word
  | .orAssign, word => .orAssign word
  | .orFail, word => .orFail word
  | .ifSet, word => .ifSet word
  | .trim trimming, pattern => .trim trimming pattern
  | .meaningless, word => .meaningless word

inductive Piece
  | char (quoted : Bool) (c : Char)
  | mark
  /-- A parameter; where its braces hold a word, the pieces of the word follow. -/
  | parameter (name : Octets) (emptyToo : Bool) (operation : Operation) (hasWord : Bool)
  | endParameter
  | command (body : Option Command)
  | arithmetic
  | endArithmetic

def addPart : Part → Word → Word
  | .literal quoted text, .literal quoted' text' :: rest =>
    if quoted = quoted' then .literal quoted (text ++ text') :: rest
    else .literal quoted text :: .literal quoted' text' :: rest
  | part, rest => part :: rest

/-- Gathers the pieces up to the end of an expansion or of the word, and gives the pieces after it.
Each step takes a piece, which bounds their number. -/
def gather : Nat → List Piece → Word × List Piece
  | 0, pieces => ([], pieces)
  | _ + 1, [] => ([], [])
  | bound + 1, piece :: pieces =>
    let before (part : Part) (pieces : List Piece) : Word × List Piece :=
      let (word, rest) := gather bound pieces
      (addPart part word, rest)
    match piece with
    | .char quoted c => before (.literal quoted [c]) pieces
    | .mark => before .mark pieces
    | .command body => before (.command body) pieces
    | .endParameter | .endArithmetic => ([], pieces)
    | .arithmetic =>
      let (expression, rest) := gather bound pieces
      before (.arithmetic expression) rest
    | .parameter name emptyToo operation hasWord =>
      let (word, rest) := if hasWord then gather bound pieces else ([], pieces)
      before (.parameter name emptyToo (operation.action word)) rest

/-- A word that is being read: its level, the levels around it, and its pieces, last first. -/
structure Draft where
  level : Level
  outer : List Level := []
  pieces : List Piece := []
  quoted : Bool := false

namespace Draft

def add (draft : Draft) (piece : Piece) : Draft := { draft with pieces := piece :: draft.pieces }

def addChar (draft : Draft) (c : Char) : Draft :=
  let quoted := draft.level.quoting == .double || draft.level.quoting == .single
  draft.add (.char quoted c)

def word (draft : Draft) : Word := (gather (draft.pieces.length + 1) draft.pieces.reverse).1

def setLevel (draft : Draft) (level : Level) : Draft := { draft with level }

def openLevel (draft : Draft) (level : Level) : Draft :=
  { draft with level, outer := draft.level :: draft.outer }

def closeLevel (draft : Draft) : Draft :=
  match draft.outer with
  | [] => draft
  | level :: outer => { draft with level, outer }

end Draft

inductive Setting
  | command
  | ending
  | document (ending : PendingDocument)

def Setting.isDocument : Setting → Bool
  | .document _ => true
  | _ => false

def isSpecialParameter (c : Char) : Bool := c.isDigit || "!@*#?-$".toList.contains c

/-- The name of a parameter, whether its length is asked for, and the character after it. -/
structure ParameterName where
  name : Octets
  ofLength : Bool := false
  after : Option Char
  found : Bool := true

def takeName (ofLength : Bool) (c : Char) : Reader ParameterName := do
  let (name, after) ← takeWhile Word.isNameChar [] (← get).bound (some c)
  return { name, ofLength, after }

def takeNumber (ofLength inBraces : Bool) (c : Char) : Reader ParameterName := do
  let source ← get
  let (name, after) ←
    takeWhile Char.isDigit [] (if inBraces then source.bound else 1) (some c)
  return { name, ofLength, after }

def takeSpecial (ofLength : Bool) (c : Char) (after : Option Char) : Reader ParameterName :=
  if isSpecialParameter c then pure { name := [c], ofLength, after }
  else do
    uncount (some c)
    return { name := [], after, found := false }

/-- Reads what follows a number sign in braces: it asks for a length, or is the parameter itself. -/
def takeLength : Reader ParameterName := do
  match ← nextJoined with
  | none => takeSpecial false '#' none
  | some c =>
    if Word.isNameStart c then takeName true c
    else if c.isDigit then takeNumber true true c
    else
      let after ← nextJoined
      if c == '\x7d' || after != some '\x7d' then
        giveBack after
        takeSpecial false '#' (some c)
      else takeSpecial true c after

def takeParameter (inBraces : Bool) (c : Option Char) : Reader ParameterName := do
  match c with
  | none => return { name := [], after := none, found := false }
  | some c =>
    if Word.isNameStart c then takeName false c
    else if c.isDigit then takeNumber false inBraces c
    else if c == '\x7d' then return { name := [], after := some c, found := false }
    else if inBraces && c == '#' then takeLength
    else takeSpecial false c (← nextJoined)

def operationOf : Option Char → Operation
  | some '\x7d' => .value
  | some '-' => .orElse
  | some '+' => .ifSet
  | some '?' => .orFail
  | some '=' => .orAssign
  | _ => .meaningless

/-- Reads the operation after a name in braces: whether it is about empty values, too, and what it
is. A line end in its place is no operation, and is not counted. -/
def takeOperation (c : Option Char) : Reader (Bool × Operation) := do
  match c with
  | some ':' => do
    let c ← nextJoined
    uncount c
    return (true, operationOf c)
  | some '%' | some '#' => do
    let second ← nextJoined
    let atEnd := c == some '%'
    if second = c then return (false, .trim { atEnd, longest := true })
    else
      giveBack second
      return (false, .trim { atEnd, longest := false })
  | _ => do
    uncount c
    return (false, operationOf c)

def readParameter (draft : Draft) (c : Char) : Reader Draft := do
  let inBraces := c == '\x7b'
  let found ← takeParameter inBraces (← if inBraces then nextJoined else pure (some c))
  let (emptyToo, operation) ←
    if !inBraces || !found.found || found.ofLength then
      giveBack found.after
      pure (false,
        if !inBraces then .value
        else if found.ofLength && found.after == some '\x7d' then .length
        else .meaningless)
    else takeOperation found.after
  let hasWord := emptyToo || operation != .value
  let quoting : Quoting := match operation, draft.level.quoting with
    | .trim _, _ => .unquoted
    | _, .arithmetic => .double
    | _, quoting => quoting
  let draft := draft.add (.parameter found.name emptyToo operation hasWord)
  if !hasWord then return draft
  let draft :=
    if quoting != draft.level.quoting || draft.level.innerDouble then
      draft.openLevel { quoting, ofBraces := true, inDouble := quoting != .unquoted }
    else draft
  let level := draft.level
  return draft.setLevel { level with
    braces := level.braces + 1
    quotedBraces := if level.inDouble then level.quotedBraces + 1 else level.quotedBraces }

/-- Reads the text up to the next backquote; backslashes that escape something special in it are
taken off. -/
def takeBackquoted (inDouble : Bool) (taken : Octets) : Nat → Reader Octets
  | 0 => fail "EOF in backquote substitution"
  | bound + 1 => do
    match ← nextJoined with
    | none => fail "EOF in backquote substitution"
    | some '`' => return taken.reverse
    | some '\\' => do
      match ← next with
      | none => fail "EOF in backquote substitution"
      | some c =>
        let isSpecial := c == '\\' || c == '`' || c == '$' || (inDouble && c == '"')
        takeBackquoted inDouble (if isSpecial then c :: taken else c :: '\\' :: taken) bound
    | some c => takeBackquoted inDouble (c :: taken) bound

def readInside (text : Octets) (list : Reader (Option Command)) : Reader (Option Command) := do
  let outer ← get
  set { outer with
    unread := text
    line := 1
    pushedBack := false
    pending := [] }
  let body ← list
  modify fun inner => { outer with
    documents := inner.documents
    nextDocument := inner.nextDocument }
  return body

/-- Reads commands up to a closing parenthesis. Documents that were announced in them and not read
are empty. -/
def readCommands (list : Reader (Option Command)) : Reader (Option Command) := do
  let pending := (← get).pending
  modify fun source => { source with pending := [] }
  let body ← list
  if (← get).token != .closeParen then failUnexpected (some .closeParen)
  modify fun source => { source with
    pushedBack := false
    documents := source.pending.map (fun document => (document.number, ⟨false, []⟩)) ++
      source.documents
    pending }
  return body

def readExpansion (setting : Setting) (list : Reader (Option Command)) (draft : Draft) :
    Reader Draft := do
  let c ← nextJoined
  let begins := match setting, c with
    | .ending, _ => false
    | _, some c => c == '(' || c == '\x7b' || Word.isNameStart c || isSpecialParameter c
    | _, none => false
  match begins, c with
  | true, some '(' => do
    let second ← nextJoined
    if second = some '(' then
      return (draft.openLevel { quoting := .arithmetic, inDouble := true }).add .arithmetic
    else
      giveBack second
      return draft.add (.command (← readCommands list))
  | true, some c => readParameter draft c
  | _, c => do
    giveBack c
    return draft.addChar '$'

def readEscape (setting : Setting) (draft : Draft) : Reader Draft := do
  let level := draft.level
  match ← next with
  | none => return draft.add (.char true '\\')
  | some c =>
    let keeps := level.inDouble && c != '\\' && c != '`' && c != '$' &&
      (c != '"' || (setting.isDocument && level.braces == 0)) &&
      (c != '\x7d' || level.braces == 0)
    let draft := if keeps then draft.add (.char true '\\') else draft
    return { draft.add (.char true c) with quoted := true }

def Level.toggle (level : Level) : Level :=
  if level.braces > 0 then { level with innerDouble := !level.innerDouble } else level

/-- Marks the place of a quotation mark; those in documents mean nothing. -/
def Draft.addMark (draft : Draft) (setting : Setting) : Draft :=
  if setting.isDocument then draft else draft.add .mark

def closeQuote (setting : Setting) (c : Char) (draft : Draft) : Draft :=
  let level := draft.level
  if setting.isDocument && level.braces == 0 then draft.addChar c
  else
    let level := if level.quotedBraces = 0 then
        { level with quoting := .unquoted, inDouble := false }
      else level
    let level := if c == '"' then level.toggle else level
    { (draft.setLevel level).addMark setting with quoted := true }

def closeBrace (draft : Draft) : Draft :=
  let level := draft.level
  if level.innerDouble || level.braces = 0 then draft.addChar '\x7d'
  else
    let level := { level with braces := level.braces - 1 }
    let draft := if level.braces = 0 && level.ofBraces then draft.closeLevel
      else draft.setLevel { level with quotedBraces := level.quotedBraces - 1 }
    draft.add .endParameter

def closeParen (draft : Draft) : Reader Draft := do
  let level := draft.level
  if level.parens > 0 then
    return (draft.addChar ')').setLevel { level with parens := level.parens - 1 }
  else
    let c ← nextJoined
    if c = some ')' then return (draft.add .endArithmetic).closeLevel
    else
      giveBack c
      return draft.addChar ')'

/-- Whether a character ends the word where it stands; if not, the word after the character. -/
def readChar (setting : Setting) (list : Reader (Option Command)) (draft : Draft) (c : Char) :
    Reader (Option Draft) := do
  let level := draft.level
  match level.quoting.meaning c with
  | .itself => return draft.addChar c
  | .lineEnd =>
    if level.quoting = .unquoted && level.braces = 0 then return none else return draft.addChar c
  | .wordEnd => if level.braces = 0 then return none else return draft.addChar c
  | .escape => return some (← readEscape setting draft)
  | .openSingle => return (draft.setLevel { level with quoting := .single }).addMark setting
  | .openDouble =>
    let level := { level with quoting := .double, inDouble := true }
    return (draft.setLevel level.toggle).addMark setting
  | .closeQuote => return closeQuote setting c draft
  | .expansion => return some (← readExpansion setting list draft)
  | .closeBrace => return closeBrace draft
  | .openParen => return (draft.addChar c).setLevel { level with parens := level.parens + 1 }
  | .closeParen => return some (← closeParen draft)
  | .backquote =>
    if let .ending := setting then return some { draft.addChar c with quoted := true }
    else
      let text ← takeBackquoted level.inDouble [] (← get).bound
      return draft.add (.command (← readInside text list))

/-- The characters of a line that end a document, and the text after that line; none if the line
does not end it. -/
def afterEnding (ending line : Octets) : Option Octets :=
  match line.drop ending.length with
  | [] => if line = ending then some [] else none
  | c :: rest => if ending.isPrefixOf line && c == '\n' then some rest else none

/-- At the start of a line of a document: takes off tabs, and sees whether the line ends it. -/
def startLine (document : PendingDocument) : Reader Bool := do
  let source ← get
  let line := if document.stripTabs then source.unread.dropWhile (· == '\t') else source.unread
  match afterEnding document.ending line with
  | some rest => do
    set { source with unread := rest, line := source.line + 1 }
    return true
  | none => do
    set { source with unread := line }
    return false

def nextOn (level : Level) : Reader (Option Char) :=
  if level.quoting = .single then next else nextJoined

/-- Reads a word from a character on. Each step takes a character, which bounds their number. -/
def readOn (setting : Setting) (list : Reader (Option Command)) :
    Nat → Draft → Option Char → Reader (Draft × Option Char)
  | 0, draft, c => return (draft, c)
  | bound + 1, draft, c => do
    match c with
    | none => return (draft, none)
    | some d =>
      match ← readChar setting list draft d with
      | none => return (draft, c)
      | some draft =>
        match setting with
        | .document document =>
          if d == '\n' then
            if ← startLine document then return (draft, none)
          readOn setting list bound draft (← nextOn draft.level)
        | _ => readOn setting list bound draft (← nextOn draft.level)

def checkClosed (setting : Setting) (draft : Draft) : Reader Unit := do
  let level := draft.level
  if level.quoting = .arithmetic then fail "Missing '))'"
  if level.quoting != .unquoted && !setting.isDocument then fail "Unterminated quoted string"
  if level.braces != 0 then fail "Missing '\x7d'"

def readWord (setting : Setting) (list : Reader (Option Command)) (c : Option Char) :
    Reader (Draft × Option Char) := do
  let (draft, after) ←
    readOn setting list (← get).bound { level := { quoting := .unquoted } } c
  checkClosed setting draft
  return (draft, after)

def readDocument (list : Reader (Option Command)) (document : PendingDocument) :
    Reader Unit := do
  let quoting : Quoting := if document.expanded then .double else .single
  let level : Level := { quoting, inDouble := document.expanded }
  let draft ←
    if ← startLine document then pure { level : Draft }
    else
      let setting : Setting := .document document
      let (draft, _) ← readOn setting list (← get).bound { level } (← nextOn level)
      checkClosed setting draft
      pure draft
  modify fun source => { source with
    documents := (document.number, ⟨document.expanded, draft.word⟩) :: source.documents }

end ValidityTables.Shell
