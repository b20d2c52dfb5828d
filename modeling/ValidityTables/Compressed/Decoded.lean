/-!
# What a decoder delivers

A damaged file is decoded up to the damage. Decoded bytes are handed over in portions: when the data
is cut short, all that was decoded is delivered, and when it turns out to be invalid, the portion
that was not handed over yet is lost. Then reading fails.
-/

namespace ValidityTables.Compressed

inductive Flaw
  | cutShort
  | invalid
  deriving DecidableEq, Repr

structure Decoded where
  bytes : List UInt8
  intact : Bool
  deriving DecidableEq, Repr

def littleEndian : List UInt8 → Nat
  | [] => 0
  | b :: rest => b.toNat + 256 * littleEndian rest

def split? (n : Nat) (bytes : List UInt8) : Option (List UInt8 × List UInt8) :=
  let taken := bytes.take n
  if taken.length = n then some (taken, bytes.drop n) else none

end ValidityTables.Compressed
