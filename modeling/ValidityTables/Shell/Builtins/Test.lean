import ValidityTables.Shell.Builtins.Options

/-!
# Conditions

The commands `test` and `[` ask about texts, numbers and files. Conditions can be negated, joined
and put between parentheses; with up to four arguments their number decides how they are read.
-/

namespace ValidityTables.Shell.Builtins.Test

open Run

inductive Unary
  | isEmpty
  | isNonempty
  | isTerminal
  | isThere
  | isFile
  | isDirectory
  | isLink
  | isPipe
  | isCharacterDevice
  | hasContent
  | isReadable
  | isWritable
  | isExecutable
  | isOwned
  /-- A property that the file has only if it is a directory in which nobody else removes files. -/
  | isSticky
  | isUnusual
  deriving DecidableEq, Repr

inductive Binary
  | same
  | different
  | before
  | after
  | compare (holds : Int → Int → Bool)
  | sameFile
  | newer
  | older

inductive Token
  | finished
  | operand
  | negation
  | openParen
  | closeParen
  | both
  | either
  | unary (question : Unary)
  | binary (question : Binary)

def unaries : List (String × Unary) :=
  [("-n", .isNonempty), ("-z", .isEmpty), ("-t", .isTerminal), ("-e", .isThere), ("-f", .isFile),
    ("-d", .isDirectory), ("-h", .isLink), ("-L", .isLink), ("-p", .isPipe),
    ("-c", .isCharacterDevice), ("-b", .isUnusual), ("-S", .isUnusual), ("-u", .isUnusual),
    ("-g", .isUnusual), ("-k", .isSticky), ("-s", .hasContent), ("-r", .isReadable),
    ("-w", .isWritable), ("-x", .isExecutable), ("-O", .isOwned), ("-G", .isOwned)]

def binaries : List (String × Binary) :=
  [("=", .same), ("!=", .different), ("<", .before), (">", .after),
    ("-eq", .compare (· == ·)), ("-ne", .compare (· != ·)), ("-lt", .compare (· < ·)),
    ("-le", .compare (· ≤ ·)), ("-gt", .compare (· > ·)), ("-ge", .compare (· ≥ ·)),
    ("-ef", .sameFile), ("-nt", .newer), ("-ot", .older)]

def unary? (text : Octets) : Option Unary := unaries.lookup (String.ofList text)

def binary? (text : Octets) : Option Binary := binaries.lookup (String.ofList text)

/-- Whether a question about one text is meant as a text itself, because of what follows it. -/
def isOperand : List Octets → Bool
  | [] => true
  | [_] => false
  | following :: _ => (binary? following).isSome

def token : List Octets → Token
  | [] => .finished
  | text :: rest =>
    match String.ofList text with
    | "!" => .negation
    | "(" => if rest.isEmpty then .operand else .openParen
    | ")" => .closeParen
    | "-a" => .both
    | "-o" => .either
    | _ =>
      match binary? text, unary? text with
      | some question, _ => .binary question
      | none, some question => if isOperand rest then .operand else .unary question
      | none, none => .operand

def node? (state : State) (path : Octets) (last : Bool := true) : Option (Place × Node) :=
  match state.world.tree.resolve (state.descriptors.map (·.1)) state.directory path last with
  | .ok (.present place node) => some (place, node)
  | _ => none

def channelNode (state : State) (number : Nat) : Option Channel :=
  (state.descriptors.lookup number).bind state.world.channel?

def fileHolds (state : State) (question : Unary) (path : Octets) : Bool :=
  match question, node? state path (question != .isLink) with
  | _, none => false
  | .isThere, _ | .isReadable, _ | .isWritable, _ | .isOwned, _ => true
  | .isLink, some (_, .link _) => true
  | .isFile, some (_, .file _ _) | .isFile, some (_, .program _) => true
  | .isFile, some (_, .descriptor n) =>
    match channelNode state n with
    | some (.file _ _ _) => true
    | _ => false
  | .isDirectory, some (_, .directory) => true
  | .isPipe, some (_, .descriptor n) =>
    match channelNode state n with
    | some (.source _) | some (.sink _) => true
    | _ => false
  | .isCharacterDevice, some (_, .device _) => true
  | .isCharacterDevice, some (_, .descriptor n) =>
    match channelNode state n with
    | some (.device _ _) => true
    | _ => false
  | .hasContent, some (_, .file content _) => !content.isEmpty
  | .hasContent, some (_, .directory) | .hasContent, some (_, .program _) => true
  | .hasContent, some (_, .descriptor n) =>
    match channelNode state n with
    | some (.file place _ _) => !(state.world.content place).isEmpty
    | _ => false
  | .isExecutable, some (_, .file _ executable) => executable
  | .isExecutable, some (_, .directory) | .isExecutable, some (_, .program _) => true
  | .isSticky, some (place, .directory) =>
    [["tmp"], ["var", "tmp"], ["dev", "shm"]].contains (place.map String.ofList)
  | _, _ => false

def unaryHolds (question : Unary) (text : Octets) : Run Bool := do
  match question with
  | .isEmpty => return text.isEmpty
  | .isNonempty => return !text.isEmpty
  | .isTerminal => do
    discard (integer text)
    return false
  | _ => return fileHolds (← get) question text

def binaryHolds (question : Binary) (first second : Octets) : Run Bool := do
  match question with
  | .same => return first == second
  | .different => return first != second
  | .before => return first != second && Octets.precedes first second
  | .after => return first != second && Octets.precedes second first
  | .compare holds => do
    let a ← integer first
    return holds a (← integer second)
  | .sameFile => do
    let state ← get
    match node? state first, node? state second with
    | some (a, _), some (b, _) => return a == b
    | _, _ => return false
  | .newer | .older => return false

/-- A step in reading a condition; the first of the arguments is the current one. -/
abbrev Reading (α : Type) : Type := StateT (List Octets) Run α

def advance (count : Nat := 1) : Reading Token := do
  modify (·.drop count)
  return token (← get)

def peek : Reading Token := return token ((← get).drop 1)

def failSyntax {α : Type} (argument : Octets) (message : String) : Run α :=
  fail ((if argument.isEmpty then [] else argument ++ ": ".toList) ++ message.toList)

def failAt {α : Type} (operator : Octets) (message : String) : Reading α :=
  liftM (failSyntax operator message : Run α)

/-- A question that begins at the current argument; `inner` reads what stands between
parentheses. -/
def primary (inner : Token → Reading Bool) : Token → Reading Bool
  | .finished => return false
  | .openParen => do
    let first ← advance
    if let .closeParen := first then return false
    let holds ← inner first
    match ← advance with
    | .closeParen => return holds
    | _ => liftM (fail "closing paren expected".toList : Run Bool)
  | .unary question => do
    let operator := (← get).head?.getD []
    discard advance
    match (← get).head? with
    | none => failAt operator "argument expected"
    | some text => liftM (unaryHolds question text)
  | _ => do
    let text := (← get).head?.getD []
    match ← peek with
    | .binary question => do
      discard advance
      let operator := (← get).head?.getD []
      discard advance
      match (← get).head? with
      | none => failAt operator "argument expected"
      | some second => liftM (binaryHolds question text second)
    | _ => return !text.isEmpty

/-- A question with negations before it. Each takes an argument, which bounds their number. -/
def negated (inner : Token → Reading Bool) : Nat → Token → Reading Bool
  | 0, first => primary inner first
  | bound + 1, first => do
    match first with
    | .negation => do
      match ← peek with
      | .finished => return true
      | next => do
        discard advance
        return !(← negated inner bound next)
    | first => primary inner first

def conjunction (inner : Token → Reading Bool) : Nat → Token → Reading Bool
  | 0, first => negated inner 0 first
  | bound + 1, first => do
    let holds ← negated inner (bound + 1) first
    match ← peek with
    | .both => do
      let following ← conjunction inner bound (← advance 2)
      return holds && following
    | _ => return holds

def disjunction (inner : Token → Reading Bool) : Nat → Token → Reading Bool
  | 0, first => conjunction inner 0 first
  | bound + 1, first => do
    let holds ← conjunction inner (bound + 1) first
    match ← peek with
    | .either => do
      let following ← disjunction inner bound (← advance 2)
      return holds || following
    | _ => return holds

/-- A condition. Each level of parentheses takes an argument, which bounds their number. -/
def expression : Nat → Token → Reading Bool
  | 0, _ => return false
  | depth + 1, first => do disjunction (expression depth) ((← get).length + 1) first

def evaluateAll (first : Option Token) (arguments : List Octets) : Run Bool := do
  let first := first.getD (token arguments)
  let (holds, rest) ← (expression (arguments.length + 1) first).run arguments
  match rest with
  | left :: _ :: _ => failSyntax left "unexpected operator"
  | _ => return holds

/-- Evaluates a condition; `bound` is no less than the number of arguments. A negation before three
arguments or two applies to all of them; a second one after it changes nothing. -/
def evaluate (negated : Bool) (bound : Nat) (arguments : List Octets) : Run Bool := do
  match bound, arguments with
  | 0, _ | _, [] => return negated
  | bound + 1, arguments =>
    let compares := match arguments with
      | [_, operator, _] => (binary? operator).isSome
      | _ => false
    let few := arguments.length = 3 ∨ arguments.length = 4
    if compares then return (← evaluateAll (some .operand) arguments) != negated
    else if few && arguments.head? = some ['('] && arguments.getLast? = some [')'] then
      return (← evaluateAll none (arguments.drop 1).dropLast) != negated
    else if few && arguments.head? = some ['!'] then evaluate true bound (arguments.drop 1)
    else return (← evaluateAll none arguments) != negated

def test : Builtin := fun arguments => do
  return if ← evaluate false arguments.length arguments then 0 else 1

def bracket : Builtin := fun arguments => do
  if (arguments.getLast?.bind (·.head?)) != some ']' then fail "missing ]".toList
  test arguments.dropLast

end ValidityTables.Shell.Builtins.Test
