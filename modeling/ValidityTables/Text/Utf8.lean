/-!
# UTF-8

Decoding bytes, strictly or with replacement. A start that no character has is as long as it can
be while it still begins some character, and at least one byte.
-/

namespace ValidityTables.Text.Utf8

inductive Start
  | char (c : Char) (length : Nat)
  | broken (length : Nat)
  deriving DecidableEq

def tail? (b : UInt8) : Option Nat :=
  if 0x80 ≤ b.toNat && b.toNat ≤ 0xBF then some (b.toNat - 0x80) else none

/-- The least and greatest second byte after a first byte of three or four byte characters: this
keeps out overlong forms, surrogates and points beyond the last plane. -/
def secondRange (first : Nat) : Nat × Nat :=
  if first = 0xE0 then (0xA0, 0xBF)
  else if first = 0xED then (0x80, 0x9F)
  else if first = 0xF0 then (0x90, 0xBF)
  else if first = 0xF4 then (0x80, 0x8F)
  else (0x80, 0xBF)

def second? (first : Nat) (b : UInt8) : Option Nat :=
  let range := secondRange first
  if range.1 ≤ b.toNat && b.toNat ≤ range.2 then some (b.toNat - 0x80) else none

def startTwo (first : Nat) (bytes : List UInt8) : Start :=
  match bytes.head?.bind tail? with
  | none => .broken 1
  | some x => .char (Char.ofNat ((first - 0xC0) * 0x40 + x)) 2

def startThree (first : Nat) (bytes : List UInt8) : Start :=
  match bytes.head?.bind (second? first) with
  | none => .broken 1
  | some x =>
    match (bytes.drop 1).head?.bind tail? with
    | none => .broken 2
    | some y => .char (Char.ofNat ((first - 0xE0) * 0x1000 + x * 0x40 + y)) 3

def startFour (first : Nat) (bytes : List UInt8) : Start :=
  match bytes.head?.bind (second? first) with
  | none => .broken 1
  | some x =>
    match (bytes.drop 1).head?.bind tail? with
    | none => .broken 2
    | some y =>
      match (bytes.drop 2).head?.bind tail? with
      | none => .broken 3
      | some z => .char (Char.ofNat ((first - 0xF0) * 0x40000 + x * 0x1000 + y * 0x40 + z)) 4

def start (b : UInt8) (rest : List UInt8) : Start :=
  let n := b.toNat
  if n < 0x80 then .char (Char.ofNat n) 1
  else if 0xC2 ≤ n && n ≤ 0xDF then startTwo n rest
  else if 0xE0 ≤ n && n ≤ 0xEF then startThree n rest
  else if 0xF0 ≤ n && n ≤ 0xF4 then startFour n rest
  else .broken 1

/-- Decodes into `decoded`, last first. Of the bytes after a start, `skip` still belong to it. -/
def decodeFrom (broken : Option Char) (decoded : List Char) (skip : Nat) :
    List UInt8 → Option (List Char)
  | [] => some decoded.reverse
  | b :: rest =>
    match skip with
    | k + 1 => decodeFrom broken decoded k rest
    | 0 =>
      match start b rest with
      | .char c n => decodeFrom broken (c :: decoded) (n - 1) rest
      | .broken n =>
        match broken with
        | none => none
        | some c => decodeFrom broken (c :: decoded) (n - 1) rest

def decode? (bytes : List UInt8) : Option (List Char) := decodeFrom none [] 0 bytes

/-- The characters of a byte sequence, each broken start replaced by U+FFFD. -/
def decodeReplacing (bytes : List UInt8) : List Char :=
  (decodeFrom (some (Char.ofNat 0xFFFD)) [] 0 bytes).getD []

def encode (s : String) : List UInt8 := s.toUTF8.toList

end ValidityTables.Text.Utf8
