import ValidityTables.Number.Notation
import ValidityTables.Shell.Syntax

/-!
# Arithmetic in shell words

Expressions over signed words of 64 bits, which wrap, with the variables of the shell. An expression
is evaluated while it is read, so that of several faults the first one counts.
-/

namespace ValidityTables.Shell.Arithmetic

inductive Operator
  | mul
  | div
  | rem
  | add
  | sub
  | shiftLeft
  | shiftRight
  | less
  | lessEqual
  | greater
  | greaterEqual
  | equal
  | unequal
  | bitAnd
  | bitXor
  | bitOr
  deriving DecidableEq, Repr

def Operator.looseness : Operator → Nat
  | .mul | .div | .rem => 0
  | .add | .sub => 1
  | .shiftLeft | .shiftRight => 2
  | .less | .lessEqual | .greater | .greaterEqual => 3
  | .equal | .unequal => 4
  | .bitAnd => 5
  | .bitXor => 6
  | .bitOr => 7

def maxLooseness : Nat := 8

inductive Symbol
  | number (n : Int)
  | variable (name : Octets)
  | operator (operator : Operator)
  | assignment (operator : Option Operator)
  | both
  | either
  | negate
  | complement
  | question
  | colon
  | openParen
  | closeParen
  | unknown
  deriving DecidableEq, Repr

/-- The symbols of more than one character come before their beginnings. -/
def signs : List (String × Symbol) :=
  [("<<=", .assignment (some .shiftLeft)), (">>=", .assignment (some .shiftRight)),
    ("<<", .operator .shiftLeft), (">>", .operator .shiftRight), ("<=", .operator .lessEqual),
    (">=", .operator .greaterEqual), ("==", .operator .equal), ("!=", .operator .unequal),
    ("&&", .both), ("||", .either), ("*=", .assignment (some .mul)),
    ("/=", .assignment (some .div)), ("%=", .assignment (some .rem)),
    ("+=", .assignment (some .add)), ("-=", .assignment (some .sub)),
    ("&=", .assignment (some .bitAnd)), ("^=", .assignment (some .bitXor)),
    ("|=", .assignment (some .bitOr)), ("<", .operator .less), (">", .operator .greater),
    ("=", .assignment none), ("*", .operator .mul), ("/", .operator .div), ("%", .operator .rem),
    ("+", .operator .add), ("-", .operator .sub), ("&", .operator .bitAnd),
    ("^", .operator .bitXor), ("|", .operator .bitOr), ("!", .negate), ("~", .complement),
    ("?", .question), (":", .colon), ("(", .openParen), (")", .closeParen)]

/-- The symbols of a text. Each takes a character, which bounds their number. -/
def symbols : Nat → Octets → List Symbol
  | 0, _ | _, [] => []
  | bound + 1, c :: cs =>
    if c == ' ' || c == '\t' || c == '\n' then symbols bound cs
    else if c.isDigit then
      let reading := Number.read (c :: cs)
      .number reading.signed :: symbols bound reading.rest
    else if Word.isNameStart c then
      let name := (c :: cs).takeWhile Word.isNameChar
      .variable name :: symbols bound ((c :: cs).drop name.length)
    else match signs.find? fun sign => sign.1.toList.isPrefixOf (c :: cs) with
      | some (text, symbol) => symbol :: symbols bound ((c :: cs).drop text.length)
      | none => [.unknown]

inductive Fault
  | expression (message : String)
  | badNumber (text : Octets)
  deriving DecidableEq, Repr

/-- The symbols that are left, and the variables with their new values, last one first. -/
structure Calculation where
  unread : List Symbol
  assigned : List (Octets × Int) := []
  value? : Octets → Option Octets

abbrev Evaluation (α : Type) : Type := StateT Calculation (Except Fault) α

def wrap (n : Int) : Int := Int.bmod n UInt64.size

/-- The number that the text of a variable gives; an empty one is zero. -/
def numberOf (text : Octets) : Except Fault Int :=
  let reading := Number.read text
  let rest := if reading.found then reading.rest else text
  if reading.exceedsSigned || !(rest.dropWhile Number.isBlank).isEmpty then .error (.badNumber text)
  else .ok reading.signed

def valueOf (name : Octets) : Evaluation Int := do
  let calculation ← get
  match calculation.assigned.lookup name with
  | some n => return n
  | none => liftM (numberOf ((calculation.value? name).getD []))

def assign (name : Octets) (n : Int) : Evaluation Int := do
  modify fun calculation => { calculation with assigned := (name, n) :: calculation.assigned }
  return n

def fail {α : Type} (message : String) : Evaluation α := throw (.expression message)

def ofBool (b : Bool) : Int := if b then 1 else 0

def bits (n : Int) : Nat := (n % UInt64.size).toNat

def apply (operator : Operator) (a b : Int) : Evaluation Int :=
  match operator with
  | .mul => return wrap (a * b)
  | .div => if b = 0 then fail "division by zero" else return wrap (a.tdiv b)
  | .rem => if b = 0 then fail "division by zero" else return a.tmod b
  | .add => return wrap (a + b)
  | .sub => return wrap (a - b)
  | .shiftLeft => return wrap (a * (1 <<< (bits b % 64) : Nat))
  | .shiftRight => return a >>> (bits b % 64)
  | .less => return ofBool (a < b)
  | .lessEqual => return ofBool (a ≤ b)
  | .greater => return ofBool (a > b)
  | .greaterEqual => return ofBool (a ≥ b)
  | .equal => return ofBool (a = b)
  | .unequal => return ofBool (a ≠ b)
  | .bitAnd => return wrap (bits a &&& bits b : Nat)
  | .bitXor => return wrap (bits a ^^^ bits b : Nat)
  | .bitOr => return wrap (bits a ||| bits b : Nat)

def next? : Evaluation (Option Symbol) := do
  let calculation ← get
  match calculation.unread with
  | [] => return none
  | symbol :: unread => do
    set { calculation with unread }
    return some symbol

def peek? : Evaluation (Option Symbol) := return (← get).unread.head?

def peekOperator? : Evaluation (Option Operator) := do
  match ← peek? with
  | some (.operator operator) => return some operator
  | _ => return none

/-- A value with the signs before it. What is skipped is read but has no effect; `inner` evaluates
what stands between parentheses. Each sign takes a symbol, which bounds their number. -/
def primary (inner : Bool → Evaluation Int) (skipped : Bool) : Nat → Evaluation Int
  | 0 => fail "expecting primary"
  | bound + 1 => do
    match ← next? with
    | some (.number n) => return n
    | some (.variable name) => if skipped then return 0 else valueOf name
    | some .openParen => do
      let n ← inner skipped
      if (← next?) != some .closeParen then fail "expecting ')'"
      return n
    | some (.operator .add) => primary inner skipped bound
    | some (.operator .sub) => return wrap (-(← primary inner skipped bound))
    | some .negate => return ofBool ((← primary inner skipped bound) = 0)
    | some .complement => return wrap (-(← primary inner skipped bound) - 1)
    | _ => fail "expecting primary"

/-- Applies operators to a first operand as long as they bind more tightly than `limit`. The first
operator has been taken. Each operator takes a symbol, which bounds their number. -/
def operations (inner : Bool → Evaluation Int) (skipped : Bool) (limit : Nat) (a : Int)
    (operator : Operator) : Nat → Evaluation Int
  | 0 => return a
  | bound + 1 => do
    let b ← primary inner skipped (← get).unread.length
    let b ← match ← peekOperator? with
      | some tighter =>
        if tighter.looseness < operator.looseness then do
          discard next?
          operations inner skipped operator.looseness b tighter bound
        else pure b
      | none => pure b
    let a ← if skipped then pure b else apply operator a b
    match ← peekOperator? with
    | some following =>
      if following.looseness < limit then do
        discard next?
        operations inner skipped limit a following bound
      else return a
    | none => return a

def joined (inner : Bool → Evaluation Int) (skipped : Bool) : Evaluation Int := do
  let a ← primary inner skipped (← get).unread.length
  match ← peekOperator? with
  | some operator => do
    discard next?
    operations inner skipped maxLooseness a operator ((← get).unread.length + 1)
  | none => return a

def conjunction (inner : Bool → Evaluation Int) (skipped : Bool) : Nat → Evaluation Int
  | 0 => joined inner skipped
  | bound + 1 => do
    let a ← joined inner skipped
    if (← peek?) = some .both then
      discard next?
      let b ← conjunction inner (skipped || a = 0) bound
      return ofBool (a ≠ 0 && b ≠ 0)
    else return a

def disjunction (inner : Bool → Evaluation Int) (skipped : Bool) : Nat → Evaluation Int
  | 0 => joined inner skipped
  | bound + 1 => do
    let a ← conjunction inner skipped (← get).unread.length
    if (← peek?) = some .either then
      discard next?
      let b ← disjunction inner (skipped || a ≠ 0) bound
      return ofBool (a ≠ 0 || b ≠ 0)
    else return a

def choice (inner : Bool → Evaluation Int) (skipped : Bool) : Nat → Evaluation Int
  | 0 => joined inner skipped
  | bound + 1 => do
    let a ← disjunction inner skipped (← get).unread.length
    if (← peek?) = some .question then
      discard next?
      let b ← inner (skipped || a = 0)
      if (← next?) != some .colon then fail "expecting ':'"
      let c ← choice inner (skipped || a ≠ 0) bound
      return if a ≠ 0 then b else c
    else return a

/-- An assignment or a value. Each level of parentheses, assignments and choices takes a symbol,
which bounds their number. -/
def expression : Nat → Bool → Evaluation Int
  | 0, _ => fail "expecting primary"
  | depth + 1, skipped => do
    match (← get).unread with
    | .variable name :: .assignment operator :: unread => do
      modify fun calculation => { calculation with unread }
      let n ← expression depth skipped
      if skipped then return n
      match operator with
      | none => assign name n
      | some operator => do assign name (← apply operator (← valueOf name) n)
    | _ => choice (expression depth) skipped (← get).unread.length

def evaluate (text : Octets) (value? : Octets → Option Octets) :
    Except Fault (Int × List (Octets × Int)) :=
  let unread := symbols text.length text
  let whole : Evaluation Int := do
    let n ← expression (unread.length + 1) false
    if !(← get).unread.isEmpty then fail "expecting EOF"
    return n
  (whole.run { unread, value? }).map fun (n, calculation) => (n, calculation.assigned.reverse)

end ValidityTables.Shell.Arithmetic
