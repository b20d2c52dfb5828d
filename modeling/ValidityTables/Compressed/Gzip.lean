import ValidityTables.Compressed.Crc32
import ValidityTables.Compressed.Deflate

/-!
# Gzip members

A member is a header, deflate data, and a checksum with the length. Only the first member of a file
is decoded, and what follows it is not looked at.
-/

namespace ValidityTables.Compressed.Gzip

structure Flags where
  checksum : Bool
  extra : Bool
  name : Bool
  comment : Bool
  deriving DecidableEq, Repr

/-- The flags of a header, unless a reserved one is set. -/
def flags? (b : UInt8) : Option Flags :=
  let n := b.toNat
  if n ≥ 32 then none
  else some {
    checksum := n / 2 % 2 == 1
    extra := n / 4 % 2 == 1
    name := n / 8 % 2 == 1
    comment := n / 16 % 2 == 1 }

def skipExtra? (present : Bool) (bytes : List UInt8) : Option (List UInt8) :=
  if !present then some bytes
  else do
    let (length, rest) ← split? 2 bytes
    let (_, rest) ← split? (littleEndian length) rest
    return rest

def maxText : Nat := 65535

def skipText? (present : Bool) (bytes : List UInt8) : Option (List UInt8) :=
  if !present then some bytes
  else match (bytes.take (maxText + 1)).idxOf? 0 with
    | none => none
    | some length => some (bytes.drop (length + 1))

/-- The bytes after the checksum of a header, which the bytes before it have to match. -/
def skipChecksum? (present : Bool) (whole bytes : List UInt8) : Option (List UInt8) :=
  if !present then some bytes
  else do
    let (stored, rest) ← split? 2 bytes
    let header := whole.take (whole.length - bytes.length)
    if littleEndian stored = (crc32 header).toNat % UInt16.size then some rest else none

def skipHeader? (bytes : List UInt8) : Option (List UInt8) := do
  let (fixed, rest) ← split? 10 bytes
  match fixed with
  | 0x1F :: 0x8B :: 8 :: flagByte :: _ =>
    let flags ← flags? flagByte
    let rest ← skipExtra? flags.extra rest
    let rest ← skipText? flags.name rest
    let rest ← skipText? flags.comment rest
    skipChecksum? flags.checksum bytes rest
  | _ => none

def trailerMatches (out rest : List UInt8) : Bool :=
  match split? 4 rest with
  | none => false
  | some (checksum, rest) =>
    match split? 4 rest with
    | none => false
    | some (length, _) =>
      littleEndian checksum == (crc32 out).toNat && littleEndian length == out.length % UInt32.size

def decode (bytes : List UInt8) : Decoded :=
  match skipHeader? bytes with
  | none => { bytes := [], intact := false }
  | some body =>
    match Deflate.decode (bytes.length - body.length) body with
    | (.ok (), state) =>
      let out := state.out.toList
      { bytes := out, intact := trailerMatches out state.source.bytes }
    | (.error .cutShort, state) => { bytes := state.out.toList, intact := false }
    | (.error .invalid, state) =>
      { bytes := state.out.toList.take state.delivered, intact := false }

end ValidityTables.Compressed.Gzip
