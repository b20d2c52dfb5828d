import ValidityTables.Shell.Arithmetic
import ValidityTables.Shell.FileNames
import ValidityTables.Shell.Splitting

/-!
# Expanding words

The values of parameters, the output of commands and the results of expressions take the place of
what stands for them in words. Then words are split into fields, and patterns become the names of
files.
-/

namespace ValidityTables.Shell

structure Mode where
  full : Bool := false
  tilde : Bool := false
  /-- Whether the word is an assignment, in which tildes may follow an equals sign or a colon. -/
  assigning : Bool := false
  inBraces : Bool := false
  quoted : Bool := false

abbrev CommandOutput : Type := Option Command → Run Octets

namespace Expansion

open Run

def homeOf (state : State) (user : Octets) : Option Octets :=
  if user.isEmpty then state.valueOf? "HOME".toList
  else if user = "root".toList then some "/root".toList
  else none

/-- The user after a tilde at the start of a text, and the rest. A tilde that is followed by quotes
or expansions has none. -/
def userAfterTilde (mode : Mode) (isLast : Bool) (text : Octets) : Option (Octets × Octets) :=
  let user := text.takeWhile fun c => c != '/' && !(mode.assigning && c == ':')
  let rest := text.drop user.length
  if rest.isEmpty && !isLast then none else some (user, rest)

/-- Text in which tildes may stand for directories; `atStart` says whether one may come next,
and `afterEquals` whether an equals sign was met. Each step takes a character, which bounds their
number. -/
def expandTildes (state : State) (mode : Mode) (isLast : Bool) (splitting : Splitting) :
    Nat → Bool → Bool → Octets → List Stretch
  | 0, _, _, _ | _, _, _, [] => []
  | bound + 1, atStart, afterEquals, c :: cs =>
    let plain (next afterEquals : Bool) : List Stretch :=
      match expandTildes state mode isLast splitting bound next afterEquals cs with
      | ⟨glyphs, _⟩ :: rest =>
        if next then .ofText false splitting [c] :: ⟨glyphs, splitting⟩ :: rest
        else ⟨.char ⟨c, false⟩ :: glyphs, splitting⟩ :: rest
      | [] => [.ofText false splitting [c]]
    if c == '~' && atStart then
      match (userAfterTilde mode isLast cs).bind fun (user, rest) =>
        (homeOf state user).map (·, rest) with
      | some (home, rest) =>
        .ofText true .never home ::
          expandTildes state mode isLast splitting bound false afterEquals rest
      | none => plain false afterEquals
    else if mode.assigning && c == '=' && !afterEquals then plain true true
    else if mode.assigning && c == ':' then plain true afterEquals
    else plain false afterEquals

def literal (state : State) (mode : Mode) (atStart isLast quoted : Bool) (text : Octets) :
    List Stretch :=
  let splitting : Splitting :=
    if mode.inBraces && !mode.quoted && !quoted then .atSeparators else .never
  if quoted || !(mode.tilde || mode.assigning) || !text.contains '~' then
    [.ofText quoted splitting text]
  else expandTildes state mode isLast splitting text.length (atStart && mode.tilde) false text

def shownOptions (state : State) : Octets :=
  "ubaCEVvxsnmiIfe".toList.filter state.hasOption

def allArguments (state : State) (mode : Mode) (quoted separate : Bool) : List Stretch :=
  let first := match state.separators with
    | none => some ' '
    | some separators => separators.head?
  let between : Octets :=
    if quoted && separate then ['\x00']
    else if mode.full && !quoted then [if state.separators.isSome then '\x00' else ' ']
    else first.toList
  let splitting : Splitting :=
    if !quoted then .atSeparators
    else if separate && !state.parameters.isEmpty then .betweenArguments
    else .never
  [.ofText quoted splitting (between.intercalate state.parameters)]

def parameterValue (state : State) (mode : Mode) (quoted : Bool) (name : Octets) :
    Option (List Stretch) :=
  let shown (text : Octets) : List Stretch :=
    [.ofText quoted (if quoted then .never else .atSeparators) text]
  match name with
  | ['@'] => some (allArguments state mode quoted mode.full)
  | ['*'] => some (allArguments state mode quoted false)
  | ['#'] => some (shown (Octets.ofNat state.parameters.length))
  | ['?'] => some (shown (Octets.ofNat state.status))
  | ['$'] => some (shown (Octets.ofNat state.shownProcess))
  | ['-'] => some (shown (shownOptions state))
  | ['!'] =>
    if state.lastBackground = 0 then none else some (shown (Octets.ofNat state.lastBackground))
  | _ =>
    if name.all Char.isDigit then
      let n := Octets.decimal name
      if n = 0 then some (shown state.name)
      else (state.parameters[n - 1]?).map shown
    else (state.valueOf? name).map shown

def lengthOf (value : List Stretch) : Nat := (Stretch.text value).length

def failUnset {α : Type} (name : Octets) (emptyToo : Bool) (message : Octets) : Run α :=
  fail (name ++ ": ".toList ++
    if message.isEmpty then
      "parameter not set".toList ++ (if emptyToo then " or null".toList else [])
    else message)

def takeGlyphs : Nat → List Stretch → List Stretch
  | _, [] => []
  | n, stretch :: rest =>
    { stretch with glyphs := stretch.glyphs.take n } ::
      takeGlyphs (n - stretch.glyphs.length) rest

def dropGlyphs : Nat → List Stretch → List Stretch
  | _, [] => []
  | n, stretch :: rest =>
    { stretch with glyphs := stretch.glyphs.drop n } ::
      dropGlyphs (n - stretch.glyphs.length) rest

def argumentsFrom (before : Nat) : List Octets → List (Nat × Octets)
  | [] => []
  | argument :: rest => (before, argument) :: argumentsFrom (before + argument.length + 1) rest

/-- How much of a text is left without the end that a pattern matches. A pattern matches the end of
one argument; those after it are cut off too. -/
def keptStart? (items : List PatternItem) (longest : Bool) (text : Octets) : Option Nat :=
  let kept := (argumentsFrom 0 (text.splitOn '\x00')).filterMap fun (before, argument) =>
    (Pattern.matchedStart? items.reverse longest argument.reverse).map
      (before + argument.length - ·)
  if longest then kept.head? else kept.getLast?

/-- How much of a text is cut off with the start that a pattern matches. A pattern looks no further
than the first argument; those after it are cut off where the longest match takes all of it. -/
def cutStart? (items : List PatternItem) (longest : Bool) (text : Octets) : Option Nat :=
  let first := text.takeWhile (· != '\x00')
  (Pattern.matchedStart? items longest first).map fun n =>
    if longest && n == first.length then text.length else n

def trim (trimming : Trimming) (pattern : List PatternChar) (value : List Stretch) :
    List Stretch :=
  let items := Pattern.items pattern
  let text := Stretch.text value
  if trimming.atEnd then
    match keptStart? items trimming.longest text with
    | some n => takeGlyphs n value
    | none => value
  else
    match cutStart? items trimming.longest text with
    | some n => dropGlyphs n value
    | none => value

def substituted (output : Octets) : Octets :=
  ((output.filter (· != '\x00')).reverse.dropWhile (· == '\n')).reverse

def arithmetic (text : Octets) : Run Int := do
  match Arithmetic.evaluate text (← get).valueOf? with
  | .ok (n, assigned) => do
    assigned.forM fun (name, n) => setVariable name (Octets.ofInt n)
    return n
  | .error (.badNumber text) => failNumber text
  | .error (.expression message) =>
    fail (("arithmetic expression: " ++ message ++ ": \"").toList ++ text ++ ['"'])

def isUnset (emptyToo : Bool) (value : Option (List Stretch)) : Bool :=
  match value with
  | none => true
  | some value => emptyToo && lengthOf value = 0

mutual

/-- Expands parts of a word; `atStart` says whether nothing stands before them, and `quoted` whether
quotation marks are open. -/
def expandParts (output : CommandOutput) (mode : Mode) (atStart quoted : Bool) :
    Word → Run (List Stretch)
  | [] => return []
  | .mark :: rest => do
    if quoted then return ⟨[.mark], .never⟩ :: (← expandParts output mode false false rest)
    match rest with
    | .parameter ['@'] false .value :: .mark :: rest => do
      let value := allArguments (← get) mode true mode.full
      return value ++ (← expandParts output mode false false rest)
    | rest => return ⟨[.mark], .never⟩ :: (← expandParts output mode false true rest)
  | .literal literalQuoted text :: rest => do
    let text := literal (← get) mode atStart rest.isEmpty literalQuoted text
    return text ++ (← expandParts output mode false quoted rest)
  | part :: rest => do
    let value ← expandPart output mode (mode.quoted || quoted) part
    return value ++ (← expandParts output mode false quoted rest)

def expandPart (output : CommandOutput) (mode : Mode) (quoted : Bool) : Part → Run (List Stretch)
  | .literal literalQuoted text => return [.ofText literalQuoted .never text]
  | .mark => return []
  | .command body => do
    let text := substituted (← output body)
    return [.ofText quoted (if quoted then .never else .atSeparators) text]
  | .arithmetic expression => do
    let text := Stretch.text (← expandParts output {} false false expression)
    let n ← arithmetic text
    return [.ofText quoted (if quoted then .never else .atSeparators) (Octets.ofInt n)]
  | .parameter name emptyToo action => expandAction output mode quoted name emptyToo action

def expandAction (output : CommandOutput) (mode : Mode) (quoted : Bool) (name : Octets)
    (emptyToo : Bool) : Action → Run (List Stretch)
  | .value => do
    let state ← get
    let value := parameterValue state mode quoted name
    if isUnset emptyToo value && state.hasOption 'u' then failUnset name false []
    return value.getD []
  | .length => do
    let state ← get
    let value := parameterValue state mode quoted name
    if value.isNone && state.hasOption 'u' then failUnset name false []
    let digits := Octets.ofNat ((value.map lengthOf).getD 0)
    return [.ofText quoted (if quoted then .never else .atSeparators) digits]
  | .orElse word => do
    let value := parameterValue (← get) mode quoted name
    if isUnset emptyToo value then
      expandParts output { mode with tilde := true, inBraces := true, quoted } true false word
    else return value.getD []
  | .ifSet word => do
    let value := parameterValue (← get) mode quoted name
    if isUnset emptyToo value then return []
    else expandParts output { mode with tilde := true, inBraces := true, quoted } true false word
  | .orAssign word => do
    let value := parameterValue (← get) mode quoted name
    if isUnset emptyToo value then
      let text := Stretch.text (← expandParts output { tilde := true } true false word)
      setVariable name text
      let state ← get
      return (parameterValue state mode quoted name).getD []
    else return value.getD []
  | .orFail word => do
    let value := parameterValue (← get) mode quoted name
    if isUnset emptyToo value then
      let message := Stretch.text (← expandParts output { tilde := true } true false word)
      if word.isEmpty then failUnset name emptyToo []
      else fail (name ++ ": ".toList ++ message)
    else return value.getD []
  | .trim trimming word => do
    let state ← get
    match parameterValue state mode quoted name with
    | none => do
      if state.hasOption 'u' then failUnset name false []
      return []
    | some value => do
      let pattern := Stretch.pattern (← expandParts output { tilde := true } true false word)
      return trim trimming pattern value
  | .meaningless _ => fail "Bad substitution".toList

end

def text (output : CommandOutput) (mode : Mode) (word : Word) : Run Octets :=
  return Stretch.text (← expandParts output mode true false word)

def pattern (output : CommandOutput) (word : Word) : Run (List PatternChar) :=
  return Stretch.pattern (← expandParts output { tilde := true } true false word)

def namesOf (state : State) (field : List Glyph) : List Octets :=
  if state.hasOption 'f' then [Stretch.fieldText field]
  else match FileNames.expand state (Stretch.pattern [⟨field, .never⟩]) with
    | [] => [Stretch.fieldText field]
    | names => names

def fields (output : CommandOutput) (word : Word) : Run (List Octets) := do
  let stretches ← expandParts output { full := true, tilde := true } true false word
  let state ← get
  let separators := state.separators.getD Stretch.usualSeparators
  return (Stretch.fields separators none stretches).flatMap (namesOf state)

end Expansion

end ValidityTables.Shell
