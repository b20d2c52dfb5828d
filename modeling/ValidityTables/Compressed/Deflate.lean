import ValidityTables.Compressed.Bits
import ValidityTables.Compressed.Decoded
import ValidityTables.Compressed.Huffman

/-!
# Deflate

Decoding of deflate data: stored blocks, and blocks of literals and copies under a fixed or a
transmitted prefix code. What is written is handed over whenever the window is full and more is to
be written, and whenever the data goes on in the next piece of the file.
-/

namespace ValidityTables.Compressed.Deflate

def windowSize : Nat := 32768

def pieceSize : Nat := 32768

/-- What is left to read, what was written, and how much of it had been written when the last piece
of the file was begun. -/
structure State where
  source : Bits
  out : Array UInt8 := #[]
  writtenBefore : Nat := 0

/-- How many bytes had been handed over when the data turned out to be invalid. -/
def State.delivered (state : State) : Nat :=
  max state.writtenBefore ((state.out.size - 1) / windowSize * windowSize)

abbrev Decoder (α : Type) : Type := ExceptT Flaw (StateM State) α

def orThrow {α : Type} (flaw : Flaw) : Option α → Decoder α
  | some a => pure a
  | none => throw flaw

def piecesOf (bytes : Nat) : Nat := (bytes + pieceSize - 1) / pieceSize

def bits (n : Nat) : Decoder Nat := do
  let before := (← get).source.position
  let (value, source) ← orThrow .cutShort ((← get).source.take? n)
  modify fun state => { state with source }
  if piecesOf before < piecesOf source.position then
    modify fun state => { state with writtenBefore := state.out.size }
  return value

def emit (b : UInt8) : Decoder Unit := modify fun state => { state with out := state.out.push b }

/-- Walks down the words of a complete code by length. `code` is what was read so far, `first` the
first code word of the length before the next bit, and `index` the place of its symbol. -/
def decodeFrom (symbols : Array Nat) (code first index : Nat) : List Nat → Decoder Nat
  | [] => throw .invalid
  | n :: counts => do
    let code := 2 * code + (← bits 1)
    let first := 2 * first
    if code < first + n then orThrow .invalid symbols[index + (code - first)]?
    else decodeFrom symbols code (first + n) (index + n) counts

def symbol : Huffman → Decoder Nat
  | .complete counts symbols => decodeFrom symbols 0 0 0 counts
  | .single symbol => do
    if (← bits 1) = 0 then return symbol else throw .invalid
  | .empty => do
    discard (bits 1)
    throw .invalid

def lengthBases : Array (Nat × Nat) := #[
  (3, 0), (4, 0), (5, 0), (6, 0), (7, 0), (8, 0), (9, 0), (10, 0), (11, 1), (13, 1), (15, 1),
  (17, 1), (19, 2), (23, 2), (27, 2), (31, 2), (35, 3), (43, 3), (51, 3), (59, 3), (67, 4),
  (83, 4), (99, 4), (115, 4), (131, 5), (163, 5), (195, 5), (227, 5), (258, 0)]

def distanceBases : Array (Nat × Nat) := #[
  (1, 0), (2, 0), (3, 0), (4, 0), (5, 1), (7, 1), (9, 2), (13, 2), (17, 3), (25, 3), (33, 4),
  (49, 4), (65, 5), (97, 5), (129, 6), (193, 6), (257, 7), (385, 7), (513, 8), (769, 8), (1025, 9),
  (1537, 9), (2049, 10), (3073, 10), (4097, 11), (6145, 11), (8193, 12), (12289, 12), (16385, 13),
  (24577, 13)]

def based (bases : Array (Nat × Nat)) (i : Nat) : Decoder Nat := do
  let (base, extra) ← orThrow .invalid bases[i]?
  return base + (← bits extra)

/-- Copies what was written a distance before. The window begins with zeros. -/
def copy (distance : Nat) : Nat → Decoder Unit
  | 0 => pure ()
  | n + 1 => do
    let out := (← get).out
    emit (if distance ≤ out.size then out[out.size - distance]?.getD 0 else 0)
    copy distance n

def symbolsFrom (literals distances : Huffman) : Nat → Decoder Unit
  | 0 => throw .cutShort
  | bound + 1 => do
    let s ← symbol literals
    if s < 256 then
      emit (UInt8.ofNat s)
      symbolsFrom literals distances bound
    else if s = 256 then pure ()
    else
      let length ← based lengthBases (s - 257)
      let distance ← based distanceBases (← symbol distances)
      copy distance length
      symbolsFrom literals distances bound

def symbols (literals distances : Huffman) : Decoder Unit := do
  symbolsFrom literals distances ((← get).source.size + 1)

def copyBytes : Nat → Decoder Unit
  | 0 => pure ()
  | n + 1 => do
    emit (UInt8.ofNat (← bits 8))
    copyBytes n

/-- A stored block begins at a byte; its length is followed by the complement of the length. -/
def storedBlock : Decoder Unit := do
  modify fun state => { state with source := state.source.alignToByte }
  let length ← bits 16
  let complement ← bits 16
  if length + complement = 0xFFFF then copyBytes length else throw .invalid

def fixedLengths : List Nat :=
  List.replicate 144 8 ++ List.replicate 112 9 ++ List.replicate 24 7 ++ List.replicate 8 8

def fixedLiterals : Huffman := (Huffman.ofLengths? fixedLengths).getD .empty

def fixedDistances : Huffman := (Huffman.ofLengths? (List.replicate 32 5)).getD .empty

def lengthOrder : List Nat := [16, 17, 18, 0, 8, 7, 9, 6, 10, 5, 11, 4, 12, 3, 13, 2, 14, 1, 15]

def shortLengths : Nat → Decoder (List Nat)
  | 0 => return []
  | n + 1 => do
    let length ← bits 3
    return length :: (← shortLengths n)

/-- Reads lengths up to a total number; `lengths` holds those read so far, last first. A symbol
gives one length or repeats one. Each adds at least one length, which bounds their number. -/
def codeLengths (code : Huffman) (total : Nat) (lengths : List Nat) : Nat → Decoder (List Nat)
  | 0 => throw .invalid
  | bound + 1 => do
    if lengths.length = total then return lengths.reverse
    if lengths.length > total then throw .invalid
    let s ← symbol code
    if s < 16 then codeLengths code total (s :: lengths) bound
    else if s = 16 then
      let last ← orThrow .invalid lengths.head?
      let n := 3 + (← bits 2)
      codeLengths code total (List.replicate n last ++ lengths) bound
    else if s = 17 then
      let n := 3 + (← bits 3)
      codeLengths code total (List.replicate n 0 ++ lengths) bound
    else
      let n := 11 + (← bits 7)
      codeLengths code total (List.replicate n 0 ++ lengths) bound

def dynamicBlock : Decoder Unit := do
  let literalCount := 257 + (← bits 5)
  let distanceCount := 1 + (← bits 5)
  let lengthCount := 4 + (← bits 4)
  if literalCount > 286 ∨ distanceCount > 30 then throw .invalid
  let short ← shortLengths lengthCount
  let table := lengthOrder.zip short
  let code ← orThrow .invalid
    (Huffman.completeOfLengths? ((List.range 19).map fun s => (table.lookup s).getD 0))
  let total := literalCount + distanceCount
  let lengths ← codeLengths code total [] (total + 1)
  let literals ← orThrow .invalid (Huffman.ofLengths? (lengths.take literalCount))
  let distances ← orThrow .invalid (Huffman.ofLengths? (lengths.drop literalCount))
  symbols literals distances

/-- Blocks up to the last one. Each takes at least three bits, which bounds their number. -/
def blocks : Nat → Decoder Unit
  | 0 => throw .cutShort
  | bound + 1 => do
    let last ← bits 1
    match ← bits 2 with
    | 0 => storedBlock
    | 1 => symbols fixedLiterals fixedDistances
    | 2 => dynamicBlock
    | _ => throw .invalid
    if last = 1 then pure () else blocks bound

/-- Decodes the deflate data that begins at a position of a file: whether it ended, what was
written, and the bytes after the data. -/
def decode (position : Nat) (bytes : List UInt8) : Except Flaw Unit × State :=
  let source : Bits := { bytes, position }
  (blocks (source.size + 1)).run { source }

end ValidityTables.Compressed.Deflate
