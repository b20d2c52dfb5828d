import ValidityTables.Compressed.Decoded

/-!
# Decoding in portions

A decoder of frames is called for portions of its output. A call ends when its portion is full, when
a frame ends, and when the file goes on in its next piece; it then hands over what it has written.
What does not fit the portion is handed over by the following calls before anything else is decoded.
-/

namespace ValidityTables.Compressed.Zstd

def portionSize : Nat := 8192

def pieceSize : Nat := 131075

/-- The sizes of the buffers of a decoder for what it reads and writes, and for how many frames they
have been much larger than needed. They are kept from frame to frame. -/
structure Buffers where
  input : Nat := 0
  output : Nat := 0
  oversized : Nat := 0
  deriving DecidableEq, Repr

def Buffers.fit (buffers : Buffers) (input output : Nat) : Buffers :=
  let much := buffers.input + buffers.output ≥ (input + output) * 3
  let oversized := if much then buffers.oversized + 1 else 0
  if buffers.input < input ∨ buffers.output < output ∨ oversized ≥ 128 then
    { input, output, oversized }
  else { buffers with oversized }

structure State where
  file : Array UInt8
  position : Nat := 0
  out : Array UInt8 := #[]
  delivered : Nat := 0
  room : Nat := portionSize
  buffers : Buffers := {}

abbrev Decoder (α : Type) : Type := ExceptT Flaw (StateM State) α

def endCall : Decoder Unit := modify fun state =>
  { state with delivered := state.out.size, room := portionSize }

def piecesOf (bytes : Nat) : Nat := (bytes + pieceSize - 1) / pieceSize

def leftInPiece (state : State) : Nat :=
  min state.file.size ((state.position / pieceSize + 1) * pieceSize) - state.position

/-- Waits for a number of bytes, which ends the call if they are not all in the piece that the call
was given. -/
def await (n : Nat) : Decoder Unit := do
  let state ← get
  if 0 < state.position ∧ piecesOf state.position < piecesOf (state.position + n) then endCall
  if state.file.size < state.position + n then throw .cutShort

def bytesAt (state : State) (skipped n : Nat) : List UInt8 :=
  let start := state.position + skipped
  (state.file.extract start (start + n)).toList

def take (n : Nat) : Decoder (List UInt8) := do
  await n
  let bytes := bytesAt (← get) 0 n
  modify fun state => { state with position := state.position + n }
  return bytes

def number (n : Nat) : Decoder Nat := do return littleEndian (← take n)

/-- Writes bytes to the portion, and hands them over if they fill more than it. -/
def write (bytes : Array UInt8) : Decoder Unit := do
  let room := (← get).room
  modify fun state => { state with out := state.out ++ bytes }
  if bytes.size ≤ room then modify fun state => { state with room := room - bytes.size }
  else endCall

end ValidityTables.Compressed.Zstd
