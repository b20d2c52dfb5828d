import ValidityTables.Text.Utf8

/-!
# JSON tokens

A JSON text as a sequence of tokens. A string is kept as the units it was written with, because a
string that nobody looks at may hold bytes and escapes that make no text.
-/

namespace ValidityTables.Json

/-- A unit of a string: a byte as it stands, or a number of sixteen bits given by an escape. -/
inductive StringUnit
  | byte (b : UInt8)
  | escaped (n : Nat)
  deriving DecidableEq, Repr

inductive Token
  | openObject
  | closeObject
  | openArray
  | closeArray
  | colon
  | comma
  | null
  | bool (value : Bool)
  | natural (value : Nat)
  | number
  | string (units : List StringUnit)
  deriving DecidableEq, Repr

inductive NumberPart
  | sign
  | zero
  | digits
  | point
  | fraction
  | exponentMark
  | exponentSign
  | exponent
  deriving DecidableEq, Repr

inductive Position
  | between
  | word (left : List UInt8) (token : Token)
  | number (part : NumberPart) (plain : Bool) (value : Nat)
  /-- In a string, whose units so far come last first. -/
  | string (units : List StringUnit)
  | escape (units : List StringUnit)
  | hex (units : List StringUnit) (value digits : Nat)
  deriving Repr

abbrev Step : Type := Option (Position × List Token)

def isSpace (b : UInt8) : Bool := b == 0x20 || b == 0x0A || b == 0x0D || b == 0x09

def isDigit (b : UInt8) : Bool := 0x30 ≤ b && b ≤ 0x39

def digitValue (b : UInt8) : Nat := b.toNat - 0x30

def hexValue? (b : UInt8) : Option Nat :=
  let n := b.toNat
  if isDigit b then some (n - 0x30)
  else if 0x41 ≤ n ∧ n ≤ 0x46 then some (n - 0x37)
  else if 0x61 ≤ n ∧ n ≤ 0x66 then some (n - 0x57)
  else none

def escapedUnit? (b : UInt8) : Option Nat :=
  match Char.ofNat b.toNat with
  | '"' => some 0x22
  | '\\' => some 0x5C
  | '/' => some 0x2F
  | 'b' => some 0x08
  | 'f' => some 0x0C
  | 'n' => some 0x0A
  | 'r' => some 0x0D
  | 't' => some 0x09
  | _ => none

def stepBetween (b : UInt8) : Step :=
  if isSpace b then some (.between, [])
  else match Char.ofNat b.toNat with
    | '\x7b' => some (.between, [.openObject])
    | '\x7d' => some (.between, [.closeObject])
    | '[' => some (.between, [.openArray])
    | ']' => some (.between, [.closeArray])
    | ':' => some (.between, [.colon])
    | ',' => some (.between, [.comma])
    | '"' => some (.string [], [])
    | 'n' => some (.word "ull".toUTF8.toList .null, [])
    | 't' => some (.word "rue".toUTF8.toList (.bool true), [])
    | 'f' => some (.word "alse".toUTF8.toList (.bool false), [])
    | '-' => some (.number .sign false 0, [])
    | '0' => some (.number .zero true 0, [])
    | _ => if isDigit b then some (.number .digits true (digitValue b), []) else none

def NumberPart.isComplete : NumberPart → Bool
  | .zero | .digits | .fraction | .exponent => true
  | .sign | .point | .exponentMark | .exponentSign => false

def NumberPart.next? (part : NumberPart) (b : UInt8) : Option NumberPart :=
  let digit := isDigit b
  let isPoint := b == 0x2E
  let isMark := b == 0x65 || b == 0x45
  let isSign := b == 0x2B || b == 0x2D
  match part with
  | .sign => if b == 0x30 then some .zero else if digit then some .digits else none
  | .zero => if isPoint then some .point else if isMark then some .exponentMark else none
  | .digits =>
    if digit then some .digits
    else if isPoint then some .point
    else if isMark then some .exponentMark
    else none
  | .point => if digit then some .fraction else none
  | .fraction =>
    if digit then some .fraction else if isMark then some .exponentMark else none
  | .exponentMark =>
    if digit then some .exponent else if isSign then some .exponentSign else none
  | .exponentSign => if digit then some .exponent else none
  | .exponent => if digit then some .exponent else none

def numberToken (plain : Bool) (value : Nat) : Token := if plain then .natural value else .number

/-- A byte that does not continue a number ends it. -/
def stepNumber (part : NumberPart) (plain : Bool) (value : Nat) (b : UInt8) : Step :=
  match part.next? b with
  | some .digits => some (.number .digits plain (value * 10 + digitValue b), [])
  | some .zero => some (.number .zero plain 0, [])
  | some next => some (.number next false 0, [])
  | none =>
    if part.isComplete then
      match stepBetween b with
      | some (position, tokens) => some (position, numberToken plain value :: tokens)
      | none => none
    else none

def step (position : Position) (b : UInt8) : Step :=
  match position with
  | .between => stepBetween b
  | .word [] _ => none
  | .word [last] token => if b = last then some (.between, [token]) else none
  | .word (next :: left) token => if b = next then some (.word left token, []) else none
  | .number part plain value => stepNumber part plain value b
  | .string units =>
    if b = 0x22 then some (.between, [.string units.reverse])
    else if b = 0x5C then some (.escape units, [])
    else if b < 0x20 then none
    else some (.string (.byte b :: units), [])
  | .escape units =>
    if b = 0x75 then some (.hex units 0 0, [])
    else match escapedUnit? b with
      | some n => some (.string (.escaped n :: units), [])
      | none => none
  | .hex units value digits =>
    match hexValue? b with
    | none => none
    | some n =>
      let value := value * 16 + n
      if digits = 3 then some (.string (.escaped value :: units), [])
      else some (.hex units value (digits + 1), [])

def finish? : Position → Option (List Token)
  | .between => some []
  | .number part plain value => if part.isComplete then some [numberToken plain value] else none
  | _ => none

/-- Scans on from a position; `tokens` holds what was scanned before, last first. -/
def tokensFrom (position : Position) (tokens : List Token) : List UInt8 → Option (List Token)
  | [] =>
    match finish? position with
    | some last => some (last.reverse ++ tokens).reverse
    | none => none
  | b :: rest =>
    match step position b with
    | some (position, more) => tokensFrom position (more.reverse ++ tokens) rest
    | none => none

def tokens? (bytes : List UInt8) : Option (List Token) := tokensFrom .between [] bytes

def encodePoint (n : Nat) : List UInt8 := Text.Utf8.encode (String.singleton (Char.ofNat n))

/-- The bytes of a string. Escaped surrogates have to come in pairs. -/
def stringBytes? : List StringUnit → Option (List UInt8)
  | [] => some []
  | .byte b :: rest => (stringBytes? rest).map (b :: ·)
  | .escaped n :: rest =>
    if 0xD800 ≤ n ∧ n ≤ 0xDBFF then
      match rest with
      | .escaped m :: rest =>
        if 0xDC00 ≤ m ∧ m ≤ 0xDFFF then
          (stringBytes? rest).map
            (encodePoint (0x10000 + (n - 0xD800) * 0x400 + (m - 0xDC00)) ++ ·)
        else none
      | _ => none
    else if 0xDC00 ≤ n ∧ n ≤ 0xDFFF then none
    else (stringBytes? rest).map (encodePoint n ++ ·)

def text? (units : List StringUnit) : Option String :=
  match stringBytes? units with
  | none => none
  | some bytes => (Text.Utf8.decode? bytes).map String.ofList

end ValidityTables.Json
