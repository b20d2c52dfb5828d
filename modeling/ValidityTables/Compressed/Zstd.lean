import ValidityTables.Compressed.Zstd.FrameHeader
import ValidityTables.Compressed.Zstd.Stream

/-!
# Zstandard frames

The frames of a file are decoded one after the other, and frames that are marked to be skipped are
skipped. A frame of known size that fits a portion and is wholly in a piece of the file is decoded
at once, and any other block by block.

This covers a part of the format. A frame is decoded if its blocks are raw or repeat one byte, and
if it has neither a checksum nor a dictionary; compressed blocks and frames with a checksum, which
decoders in use take, are refused as invalid here.
-/

namespace ValidityTables.Compressed.Zstd

inductive BlockKind
  | raw
  | repeated
  | compressed
  | reserved
  deriving DecidableEq, Repr

structure BlockHeader where
  kind : BlockKind
  size : Nat
  isLast : Bool
  deriving DecidableEq, Repr

def BlockHeader.ofNumber (n : Nat) : BlockHeader where
  kind := match n / 2 % 4 with
    | 0 => .raw
    | 1 => .repeated
    | 2 => .compressed
    | _ => .reserved
  size := n / 8
  isLast := n % 2 = 1

def BlockHeader.stored (block : BlockHeader) : Nat :=
  match block.kind with
  | .repeated => 1
  | _ => block.size

/-- The blocks of a frame that begin at a position and end before a limit, each with the position of
its bytes, if there are such. Each takes at least three bytes, which bounds their number. -/
def blocksWithin? (file : Array UInt8) (limit : Nat) :
    Nat → Nat → Option (List (BlockHeader × Nat))
  | 0, _ => none
  | bound + 1, position =>
    let start := position + 3
    let block := BlockHeader.ofNumber (littleEndian (file.extract position start).toList)
    if start + block.stored > limit ∨ block.kind = .reserved then none
    else if block.isLast then some [(block, start)]
    else (blocksWithin? file limit bound (start + block.stored)).map ((block, start) :: ·)

def blockBytes? (file : Array UInt8) (block : BlockHeader) (position : Nat) :
    Option (Array UInt8) :=
  match block.kind with
  | .raw => some (file.extract position (position + block.size))
  | .repeated => some (Array.replicate block.size (file[position]?.getD 0))
  | _ => none

def contentOf? (file : Array UInt8) (size : Nat) (content : Array UInt8) :
    List (BlockHeader × Nat) → Option (Array UInt8)
  | [] => if content.size = size then some content else none
  | (block, position) :: rest =>
    if content.size + block.size > size then none
    else do contentOf? file size (content ++ (← blockBytes? file block position)) rest

def wholeFrame (size : Nat) (blocks : List (BlockHeader × Nat)) : Decoder Unit := do
  match contentOf? (← get).file size #[] blocks with
  | none => throw .invalid
  | some content => write content
  match blocks.getLast? with
  | none => throw .invalid
  | some (block, position) =>
    modify fun state => { state with position := position + block.stored }

/-- A frame that is decoded block by block: its header, where in the output buffer the next block is
put, and how much was decoded. -/
structure Frame where
  header : FrameHeader
  capacity : Nat
  place : Nat := 0
  decoded : Nat := 0

namespace Frame

def isHeld (frame : Frame) : Bool :=
  match frame.header.contentSize with
  | none => false
  | some size => size ≤ frame.capacity

/-- Goes on after a number of bytes. A buffer that does not hold the whole frame is used again from
its beginning when the next block might not fit. -/
def advance (frame : Frame) (n : Nat) : Frame :=
  let place := frame.place + n
  { frame with
    place := if !frame.isHeld && place + frame.header.maxBlock > frame.capacity then 0 else place
    decoded := frame.decoded + n }

/-- Writes what a block gives, or a part of it. `ends` tells whether the frame ends with it; its
size then has to be right. -/
def write (frame : Frame) (bytes : Array UInt8) (ends : Bool) : Decoder Frame := do
  if frame.place + bytes.size > frame.capacity then throw .invalid
  if ends ∧ !frame.header.contentSize.all (· == frame.decoded + bytes.size) then throw .invalid
  Zstd.write bytes
  return frame.advance bytes.size

def raw (frame : Frame) (isLast : Bool) : Nat → Nat → Decoder Frame
  | 0, _ => throw .invalid
  | bound + 1, size => do
    await 1
    let state ← get
    let n := min size (leftInPiece state)
    let bytes := state.file.extract state.position (state.position + n)
    modify fun state => { state with position := state.position + n }
    let frame ← frame.write bytes (isLast && n == size)
    if n = size then return frame else raw frame isLast bound (size - n)

/-- The blocks of a frame. The size of the frame does not matter if its last block takes no bytes.
Each block takes at least three bytes, which bounds their number. -/
def blocks (frame : Frame) : Nat → Decoder Unit
  | 0 => throw .cutShort
  | bound + 1 => do
    let block := BlockHeader.ofNumber (← number 3)
    if block.kind = .reserved ∨ block.stored > frame.header.maxBlock then throw .invalid
    let frame ←
      if block.stored = 0 then pure frame
      else match block.kind with
        | .raw => frame.raw block.isLast (block.size + 1) block.size
        | .repeated => do
          let bytes ← take 1
          if block.size > frame.header.maxBlock then throw .invalid
          frame.write (Array.replicate block.size (bytes.headD 0)) block.isLast
        | _ => do
          await block.size
          throw .invalid
    if block.isLast then return () else frame.blocks bound

end Frame

/-- How much a decoder may write beyond the end of a block. -/
def margin : Nat := 32

def prepare (windowSize maxBlock : Nat) (contentSize : Option Nat) : Decoder Unit :=
  let whole := windowSize + 2 * maxBlock + 2 * margin
  modify fun state => { state with
    buffers := state.buffers.fit (max maxBlock 4) (min whole (contentSize.getD whole)) }

def minWindow : Nat := 1024

def streamedFrame (header : FrameHeader) : Decoder Unit := do
  if header.windowSize > FrameHeader.maxWindow then throw .invalid
  prepare (max header.windowSize minWindow) header.maxBlock header.contentSize
  let state ← get
  let frame : Frame := { header, capacity := state.buffers.output }
  frame.blocks (state.file.size - state.position + 1)

def skippedFrame : Decoder Unit := do
  discard (number 4)
  let size ← number 4
  prepare minWindow 0 (some size)
  await size
  modify fun state => { state with position := state.position + size }

/-- The blocks of a frame that is decoded at once, where `start` is the position of its first
block. -/
def atOnce? (state : State) (header : FrameHeader) (start : Nat) :
    Option (Nat × List (BlockHeader × Nat)) := do
  let size ← header.contentSize
  let limit := state.position + leftInPiece state
  if size > state.room ∨ start > limit then none
  return (size, ← blocksWithin? state.file limit (limit - start + 1) start)

def contentFrame : Decoder Unit := do
  await 5
  let descriptor := littleEndian (bytesAt (← get) 4 1)
  let length := FrameHeader.length descriptor
  await length
  let state ← get
  match FrameHeader.ofFields? descriptor (bytesAt state 5 (length - 5)) with
  | none => throw .invalid
  | some header =>
    if header.dictionary ≠ 0 then throw .invalid
    let start := state.position + length
    let wholly := atOnce? state header start
    modify fun state => { state with position := start }
    match wholly with
    | some (size, blocks) => wholeFrame size blocks
    | none => streamedFrame header

/-- Decodes frames up to the end of the file; there has to be one. Each takes at least four bytes,
which bounds their number. -/
def frames : Nat → Decoder Unit
  | 0 => throw .cutShort
  | bound + 1 => do
    await 4
    let magic := littleEndian (bytesAt (← get) 0 4)
    if isSkippable magic then skippedFrame
    else if magic = frameMagic then contentFrame
    else throw .invalid
    endCall
    let state ← get
    if state.position = state.file.size then return () else frames bound

def decode (bytes : List UInt8) : Decoded :=
  match (frames (bytes.length + 1)).run { file := bytes.toArray } with
  | (.ok (), state) => { bytes := state.out.toList, intact := true }
  | (.error .cutShort, state) => { bytes := state.out.toList, intact := false }
  | (.error .invalid, state) =>
    { bytes := state.out.toList.take state.delivered, intact := false }

end ValidityTables.Compressed.Zstd
