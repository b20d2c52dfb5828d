import ValidityTables.Shell.WordReader

/-!
# Reading commands

Commands are read line by line. A line end after a command ends the list of commands on that line,
and the documents that were announced on it follow.
-/

namespace ValidityTables.Shell

open Source

inductive ListPlace
  | line
  | group
  | enclosed
  deriving DecidableEq, Repr

inductive Goal
  | list (place : ListPlace)
  | command
  deriving DecidableEq, Repr

abbrev Inside : Type := Goal → Reader (Option Command)

def specialNames : List String :=
  [".", ":", "break", "continue", "eval", "exec", "exit", "export", "local", "readonly", "return",
    "set", "shift", "times", "trap", "unset"]

def expect (skipNewlines : Bool) : Reader Unit := modify fun source =>
  { source with expectation := { skipNewlines, keywords := true, aliases := true } }

def pushBack : Reader Unit := modify fun source => { source with pushedBack := true }

def see (token : Token) : Reader Token := do
  modify fun source => { source with token }
  return token

def skipComment : Reader Unit := modify fun source =>
  { source with unread := source.unread.dropWhile (· != '\n') }

def readOperator (c : Char) (once twice : Token) : Reader Token := do
  let second ← nextJoined
  if second = some c then see twice
  else
    giveBack second
    see once

def readRedirection (descriptor : Option Nat) (c : Char) : Reader Token := do
  let second ← nextJoined
  let (usual, kind) : Nat × RedirectionKind ←
    match c, second with
    | '>', some '>' => pure (1, .file .append)
    | '>', some '|' => pure (1, .file .overwrite)
    | '>', some '&' => pure (1, .duplicate)
    | '>', _ => do
      giveBack second
      pure (1, .file .write)
    | _, some '<' => do
      let third ← nextJoined
      if third = some '-' then pure (0, .document true)
      else
        giveBack third
        pure (0, .document false)
    | _, some '&' => pure (0, .duplicate)
    | _, some '>' => pure (0, .file .readAndWrite)
    | _, _ => do
      giveBack second
      pure (0, .file .read)
  modify fun source => { source with redirection := (descriptor.getD usual, kind) }
  see .redirection

/-- The descriptor that pieces before a redirection name, if they are nothing else. -/
def descriptorOf? : List Piece → Option (Option Nat)
  | [] => some none
  | [.char false c] => if c.isDigit then some (some (c.toNat - 48)) else none
  | _ => none

def readWordToken (setting : Setting) (inside : Inside) (c : Option Char) : Reader Token := do
  let (draft, after) ← readWord setting (inside (.list .enclosed)) c
  let redirects := !draft.quoted && (after = some '<' || after = some '>')
  match if redirects then descriptorOf? draft.pieces else none, after with
  | some descriptor, some c => readRedirection descriptor c
  | _, _ => do
    giveBack after
    modify fun source => { source with word := draft.word, quoted := draft.quoted }
    see .word

/-- Reads a token from the source. Each step takes a character, which bounds their number. -/
def readNewToken (setting : Setting) (inside : Inside) : Nat → Reader Token
  | 0 => see .endOfFile
  | bound + 1 => do
    match ← nextJoined with
    | none => see .endOfFile
    | some ' ' | some '\t' => readNewToken setting inside bound
    | some '#' => do
      skipComment
      readNewToken setting inside bound
    | some '\n' => see .newline
    | some '&' => readOperator '&' .ampersand .bothAmpersands
    | some '|' => readOperator '|' .bar .bothBars
    | some ';' => readOperator ';' .semicolon .bothSemicolons
    | some '(' => see .openParen
    | some ')' => see .closeParen
    | some c => readWordToken setting inside (some c)

def readRawToken (setting : Setting) (inside : Inside) : Reader Token := do
  let source ← get
  if source.pushedBack then
    set { source with pushedBack := false }
    return source.token
  else readNewToken setting inside source.bound

def readDocuments (inside : Inside) : Reader Unit := do
  let pending := (← get).pending
  modify fun source => { source with pending := [] }
  pending.forM (readDocument (inside (.list .enclosed)))

def skipNewlines (inside : Inside) : Nat → Token → Reader Token
  | 0, token => return token
  | bound + 1, token => do
    if token = .newline then
      readDocuments inside
      skipNewlines inside bound (← readRawToken .command inside)
    else return token

/-- The text of the alias that a word is, unless that text is being read already. -/
def aliasText? (source : Source) : Option (Octets × Octets) := do
  let name ← source.word.plain?
  let left := source.unread.length
  if source.openAliases.any fun (used, outside) => used == name && outside ≤ left then none
  else
    let text ← source.aliases.lookup name
    return (name, text)

/-- Reads the next token as it is expected. Each alias may be met once inside of another one, which
bounds their number. -/
def readTokenFrom (inside : Inside) (setting : Setting) : Nat → Reader Token
  | 0 => fail "aliases are nested too deeply"
  | bound + 1 => do
    let expectation := (← get).expectation
    let first ← readRawToken setting inside
    let token ← if expectation.skipNewlines then skipNewlines inside (← get).bound first
      else pure first
    let source ← get
    if token != .word || source.quoted then
      set { source with expectation := {} }
      return token
    let keyword := if expectation.keywords then
        Keyword.all.find? fun keyword => source.word.plain? = some keyword.text.toList
      else none
    match keyword, if expectation.aliases then aliasText? source else none with
    | some keyword, _ => do
      set { source with expectation := {} }
      see (.keyword keyword)
    | none, some (name, text) => do
      let left := source.unread.length
      set { source with
        unread := text ++ source.unread
        bound := source.bound + text.length
        openAliases := (name, left) :: source.openAliases.filter (·.2 ≤ left) }
      readTokenFrom inside setting bound
    | none, none => do
      set { source with expectation := {} }
      return token

def readToken (inside : Inside) (setting : Setting := .command) : Reader Token := do
  let source ← get
  readTokenFrom inside setting (source.aliases.length + source.bound)

def endingText (word : Word) : Octets :=
  word.flatMap fun part => match part with
    | .literal _ text => text
    | _ => []

def duplicateTarget (word : Word) : Target :=
  match word.plain? with
  | some [c] =>
    if c.isDigit then .descriptor (c.toNat - 48)
    else if c == '-' then .closed
    else .descriptorOf word
  | _ => .descriptorOf word

def readTarget (inside : Inside) : Reader Redirection := do
  let (descriptor, kind) := (← get).redirection
  let setting : Setting := match kind with
    | .document _ => .ending
    | _ => .command
  if (← readToken inside setting) != .word then failUnexpected
  let source ← get
  match kind with
  | .file use => return .mk descriptor (.file use source.word)
  | .duplicate => return .mk descriptor (duplicateTarget source.word)
  | .document stripTabs => do
    let number := source.nextDocument
    let document : PendingDocument :=
      { number, stripTabs, expanded := !source.quoted, ending := endingText source.word }
    set { source with nextDocument := number + 1, pending := source.pending ++ [document] }
    return .mk descriptor (.document number)

structure SimpleDraft where
  assignments : List Word := []
  words : List Word := []
  redirections : List Redirection := []

def readFunction (inside : Inside) (name : Word) : Reader Command := do
  if (← readToken inside) != .closeParen then failUnexpected (some .closeParen)
  match name.plain? with
  | some text =>
    if !Word.isName text || specialNames.any (·.toList = text) then fail "Bad function name"
    expect true
    return .define text ((← inside .command).getD default)
  | none => fail "Bad function name"

def readSimple (inside : Inside) (line : Nat) (draft : SimpleDraft) : Nat → Reader Command
  | 0 => pushBack *> pure default
  | bound + 1 => do
    modify fun source => { source with
      expectation := { source.expectation with aliases := draft.words.isEmpty } }
    match ← readToken inside with
    | .word => do
      let word := (← get).word
      if draft.words.isEmpty && word.isAssignment then
        readSimple inside line { draft with assignments := word :: draft.assignments } bound
      else readSimple inside line { draft with words := word :: draft.words } bound
    | .redirection => do
      let redirection ← readTarget inside
      readSimple inside line { draft with redirections := redirection :: draft.redirections } bound
    | token => do
      match token, draft with
      | .openParen, ⟨[], [name], []⟩ => readFunction inside name
      | _, _ => do
        pushBack
        return .simple line draft.assignments.reverse draft.words.reverse
          draft.redirections.reverse

def readGroup (inside : Inside) : Reader Command :=
  return (← inside (.list .group)).getD default

def require (inside : Inside) (token : Token) : Reader Unit := do
  if (← readToken inside) != token then failUnexpected (some token)

def readConditional (inside : Inside) : Nat → Reader Command
  | 0 => return default
  | bound + 1 => do
    let condition ← readGroup inside
    require inside (.keyword .thenDo)
    let consequence ← readGroup inside
    match ← readToken inside with
    | .keyword .elseIf => return .conditional condition consequence (← readConditional inside bound)
    | .keyword .otherwise => return .conditional condition consequence (← readGroup inside)
    | _ => do
      pushBack
      return .conditional condition consequence none

def readWords (inside : Inside) (words : List Word) : Nat → Reader (List Word)
  | 0 => return words.reverse
  | bound + 1 => do
    if (← readToken inside) = .word then
      readWords inside ((← get).word :: words) bound
    else return words.reverse

def allArguments : Word := [.mark, .parameter ['@'] false .value, .mark]

def readEach (inside : Inside) (line : Nat) : Reader Command := do
  let token ← readToken inside
  let source ← get
  let name ← match source.word.plain? with
    | some name =>
      if token = .word && !source.quoted && Word.isName name then pure name
      else fail "Bad for loop variable"
    | none => fail "Bad for loop variable"
  expect true
  let words ←
    if (← readToken inside) = .keyword .inWords then do
      let words ← readWords inside [] (← get).bound
      let token := (← get).token
      if token != .newline && token != .semicolon then failUnexpected
      pure words
    else do
      if (← get).token != .semicolon then pushBack
      pure [allArguments]
  expect true
  require inside (.keyword .doLoop)
  return .each line name words (← readGroup inside)

def readPatterns (inside : Inside) (patterns : List Word) : Nat → Reader (List Word)
  | 0 => return patterns.reverse
  | bound + 1 => do
    let patterns := (← get).word :: patterns
    if (← readToken inside) = .bar then
      discard (readToken inside)
      readPatterns inside patterns bound
    else return patterns.reverse

def readBranches (inside : Inside) (branches : List (List Word × Option Command)) :
    Nat → Reader (List (List Word × Option Command))
  | 0 => return branches.reverse
  | bound + 1 => do
    expect true
    let token ← readToken inside
    if token = .keyword .endCase then return branches.reverse
    if token = .openParen then discard (readToken inside)
    let patterns ← readPatterns inside [] (← get).bound
    if (← get).token != .closeParen then failUnexpected (some .closeParen)
    let body ← inside (.list .enclosed)
    let branches := (patterns, body) :: branches
    expect true
    match ← readToken inside with
    | .keyword .endCase => return branches.reverse
    | .bothSemicolons => readBranches inside branches bound
    | _ => failUnexpected (some .bothSemicolons)

def readChoice (inside : Inside) (line : Nat) : Reader Command := do
  if (← readToken inside) != .word then failUnexpected (some .word)
  let subject := (← get).word
  expect true
  require inside (.keyword .inWords)
  return .choose line subject (← readBranches inside [] (← get).bound)

def readRedirections (inside : Inside) (redirections : List Redirection) :
    Nat → Reader (List Redirection)
  | 0 => return redirections.reverse
  | bound + 1 => do
    if (← readToken inside) = .redirection then
      let redirection ← readTarget inside
      readRedirections inside (redirection :: redirections) bound
    else
      pushBack
      return redirections.reverse

def readCompound (inside : Inside) (line : Nat) : Token → Reader Command
  | .keyword .ifThen => do
    let body ← readConditional inside (← get).bound
    require inside (.keyword .endIf)
    return body
  | .keyword .whileTrue => readLoop false
  | .keyword .untilTrue => readLoop true
  | .keyword .forEach => do
    let body ← readEach inside line
    require inside (.keyword .done)
    return body
  | .keyword .case => readChoice inside line
  | .keyword .openBrace => do
    let body ← readGroup inside
    require inside (.keyword .closeBrace)
    return body
  | .openParen => do
    let body ← readGroup inside
    require inside .closeParen
    return .subshell line body []
  | _ => failUnexpected
where
  readLoop (untilTrue : Bool) : Reader Command := do
    let condition ← readGroup inside
    require inside (.keyword .doLoop)
    let body ← readGroup inside
    require inside (.keyword .done)
    return .loop untilTrue condition body

def redirected (line : Nat) (redirections : List Redirection) : Command → Command
  | .subshell line body _ => .subshell line body redirections
  | command => if redirections.isEmpty then command else .redirected line command redirections

def readCommand (inside : Inside) : Reader Command := do
  let line := (← get).line
  match ← readToken inside with
  | .word | .redirection => do
    pushBack
    let source ← get
    readSimple inside source.line {} source.bound
  | token => do
    let body ← readCompound inside line token
    expect false
    return redirected line (← readRedirections inside [] (← get).bound) body

def readPipes (inside : Inside) (commands : List Command) : Nat → Reader Command
  | 0 => return default
  | bound + 1 => do
    if (← readToken inside) = .bar then
      expect true
      let command ← readCommand inside
      readPipes inside (command :: commands) bound
    else
      pushBack
      match commands with
      | [command] => return command
      | commands => return .pipeline false commands.reverse

def readPipeline (inside : Inside) : Reader Command := do
  let negated := (← readToken inside) = .keyword .negate
  if negated then expect false else pushBack
  let first ← readCommand inside
  let pipeline ← readPipes inside [first] (← get).bound
  return if negated then .negation pipeline else pipeline

def readJoined (inside : Inside) (first : Command) : Nat → Reader Command
  | 0 => return first
  | bound + 1 => do
    match ← readToken inside with
    | .bothAmpersands => do
      expect true
      readJoined inside (.andThen first (← readPipeline inside)) bound
    | .bothBars => do
      expect true
      readJoined inside (.orElse first (← readPipeline inside)) bound
    | _ => do
      pushBack
      return first

def inBackground (line : Nat) : Command → Command
  | .pipeline _ commands => .pipeline true commands
  | .redirected line body redirections => .inBackground line body redirections
  | command => .inBackground line command []

def joinCommands : List Command → Option Command
  | [] => none
  | [command] => some command
  | commands => some (.sequence commands.reverse)

def readList (inside : Inside) (place : ListPlace) (commands : List Command) :
    Nat → Reader (Option Command)
  | 0 => return joinCommands commands
  | bound + 1 => do
    expect (place != .line)
    let token ← readToken inside
    if token = .newline then
      readDocuments inside
      return joinCommands commands
    else if token = .endOfFile then endAtEnd commands
    else
      pushBack
      let mayEnd := place = .enclosed || (place = .group && !commands.isEmpty)
      if mayEnd && token.endsList then return joinCommands commands
      let first ← readPipeline inside
      let command ← readJoined inside first (← get).bound
      match ← readToken inside with
      | .ampersand => do
        let command := inBackground (← get).line command
        readList inside place (command :: commands) bound
      | .semicolon => readList inside place (command :: commands) bound
      | .endOfFile => endAtEnd (command :: commands)
      | .newline => do
        pushBack
        readList inside place (command :: commands) bound
      | _ => do
        if place = .line then failUnexpected
        pushBack
        return joinCommands (command :: commands)
where
  endAtEnd (commands : List Command) : Reader (Option Command) := do
    readDocuments inside
    pushBack
    modify fun source => { source with token := .endOfFile }
    return joinCommands commands

/-- Reads a list or a command with lists in it. Each level takes a character, which bounds their
number. -/
def readGoal : Nat → Inside
  | 0, _ => fail "commands are nested too deeply"
  | depth + 1, .list place => do readList (readGoal depth) place [] (← get).bound
  | depth + 1, .command => do return some (← readCommand (readGoal depth))

inductive ScriptLine
  | command (command : Command)
  | blank
  | finished

def readLine : Reader (ScriptLine × Bool) := do
  modify fun source => { source with pushedBack := false, expectation := {}, pending := [] }
  let command ← readGoal (← get).bound (.list .line)
  let source ← get
  let atEnd := source.pushedBack && source.token = .endOfFile
  match command with
  | some command => return (.command command, atEnd)
  | none => return (if atEnd then .finished else .blank, atEnd)

end ValidityTables.Shell
