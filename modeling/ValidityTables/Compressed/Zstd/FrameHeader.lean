import ValidityTables.Compressed.Decoded

/-!
# Zstandard frame headers

What a frame says about itself before its blocks: how much it holds, and how far back it may refer.
-/

namespace ValidityTables.Compressed.Zstd

def frameMagic : Nat := 0xFD2FB528

def isSkippable (magic : Nat) : Bool := magic / 16 == 0x184D2A5

structure FrameHeader where
  contentSize : Option Nat
  windowSize : Nat
  dictionary : Nat
  deriving DecidableEq, Repr

namespace FrameHeader

/-- The widest window that can be described, and the widest that is decoded block by block. -/
def maxDescribed : Nat := 31

def maxWindow : Nat := (1 <<< 27) + 1

def maxBlock (header : FrameHeader) : Nat := min header.windowSize (1 <<< 17)

def length (descriptor : Nat) : Nat :=
  let single := descriptor / 32 % 2
  let dictionary := [0, 1, 2, 4][descriptor % 4]?.getD 0
  let content := [single, 2, 4, 8][descriptor / 64]?.getD 0
  5 + (1 - single) + dictionary + content

def windowOf? (b : Nat) : Option Nat :=
  let log := 10 + b / 8
  let base := 1 <<< log
  if log > maxDescribed then none else some (base + base / 8 * (b % 8))

/-- The content size given by its bytes. The form of two bytes does not repeat the sizes of the form
of one byte, and the greatest number stands for an unknown size. -/
def contentSizeOf? (field : List UInt8) : Option Nat :=
  match field.length with
  | 0 => none
  | 2 => some (littleEndian field + 256)
  | _ => if littleEndian field = UInt64.size - 1 then none else some (littleEndian field)

/-- Reads what follows the descriptor. In a frame of a single segment the window is as large as the
content. The form with a checksum is not read, although decoders in use take it. -/
def ofFields? (descriptor : Nat) (fields : List UInt8) : Option FrameHeader := do
  let single := descriptor / 32 % 2 = 1
  if descriptor / 8 % 2 = 1 ∨ descriptor / 4 % 2 = 1 then none
  let (window, fields) ← split? (if single then 0 else 1) fields
  let (dictionary, content) ← split? ([0, 1, 2, 4][descriptor % 4]?.getD 0) fields
  let windowSize ←
    if single then some (littleEndian content + (if content.length = 2 then 256 else 0))
    else windowOf? (littleEndian window)
  return {
    contentSize := contentSizeOf? content, windowSize, dictionary := littleEndian dictionary }

end FrameHeader

end ValidityTables.Compressed.Zstd
