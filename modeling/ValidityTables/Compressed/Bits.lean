/-!
# Reading bits

A byte sequence read bit by bit, the least significant bit of each byte first.
-/

namespace ValidityTables.Compressed

/-- The bits of a byte that was begun, the bytes after it, and how many bytes came before them. -/
structure Bits where
  pending : Nat := 0
  count : Nat := 0
  bytes : List UInt8
  position : Nat
  deriving DecidableEq, Repr

namespace Bits

def size (bits : Bits) : Nat := bits.count + 8 * bits.bytes.length

def next? (bits : Bits) : Option (Nat × Bits) :=
  if bits.count = 0 then
    match bits.bytes with
    | [] => none
    | b :: rest => some (b.toNat % 2,
        { pending := b.toNat / 2, count := 7, bytes := rest, position := bits.position + 1 })
  else some (bits.pending % 2,
    { bits with pending := bits.pending / 2, count := bits.count - 1 })

def take? : Nat → Bits → Option (Nat × Bits)
  | 0, bits => some (0, bits)
  | n + 1, bits => do
    let (bit, bits) ← bits.next?
    let (high, bits) ← take? n bits
    return (bit + 2 * high, bits)

def alignToByte (bits : Bits) : Bits := { bits with pending := 0, count := 0 }

end Bits

end ValidityTables.Compressed
