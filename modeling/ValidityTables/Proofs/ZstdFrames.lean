import ValidityTables.Compressed.Zstd
import ValidityTables.Proofs.Decoders

/-! # Zstandard frames of raw blocks

Such frames are decoded one after the other, each to its content, wherever the file is cut into
pieces and the output into portions.
-/

namespace ValidityTables.Compressed.Zstd

theorem extract_of_drop {file : Array UInt8} {start : Nat} {front rest : List UInt8}
    (h : file.toList.drop start = front ++ rest) :
    (file.extract start (start + front.length)).toList = front := by
  rw [Array.toList_extract, List.extract_eq_take_drop, h, Nat.add_sub_cancel_left, List.take_left]

theorem drop_of_drop {file : List UInt8} {start : Nat} {front rest : List UInt8}
    (h : file.drop start = front ++ rest) : file.drop (start + front.length) = rest := by
  rw [← List.drop_drop, h, List.drop_left]

/-- What is left to read of a file, and what was written. -/
structure At (state : State) (rest out : List UInt8) : Prop where
  position : state.position ≤ state.file.size
  rest : state.file.toList.drop state.position = rest
  out : state.out.toList = out

namespace At

variable {state : State} {front rest out : List UInt8}

theorem size (h : At state rest out) : state.file.size = state.position + rest.length := by
  have hLength := congrArg List.length h.rest
  have hPosition := h.position
  rw [List.length_drop, Array.length_toList] at hLength
  omega

theorem bytesAt_skip {skipped : List UInt8} (h : At state (skipped ++ (front ++ rest)) out) :
    bytesAt state skipped.length front.length = front :=
  extract_of_drop (drop_of_drop h.rest)

theorem extract (h : At state (front ++ rest) out) :
    (state.file.extract state.position (state.position + front.length)).toList = front :=
  extract_of_drop h.rest

theorem advance (h : At state (front ++ rest) out) :
    At { state with position := state.position + front.length } rest out where
  position := by
    have hSize := h.size
    rw [List.length_append] at hSize
    simp only
    omega
  rest := drop_of_drop h.rest
  out := h.out

end At

theorem endCall_delivers {rest out : List UInt8} {state : State} (h : At state rest out) :
    ∃ after, Delivers endCall state () after ∧ At after rest out ∧
      after.position = state.position :=
  ⟨_, .change _ _, ⟨h.position, h.rest, h.out⟩, rfl⟩

theorem await_delivers {n : Nat} {rest out : List UInt8} (hEnough : n ≤ rest.length)
    {state : State} (h : At state rest out) :
    ∃ after, Delivers (await n) state () after ∧ At after rest out := by
  have hFits : ¬state.file.size < state.position + n := by
    have hSize := h.size
    omega
  unfold await
  by_cases hPiece : 0 < state.position ∧ piecesOf state.position < piecesOf (state.position + n)
  · obtain ⟨after, hEnd, hAfter, -⟩ := endCall_delivers h
    refine ⟨after, .bind (.state _) ?_, hAfter⟩
    simp only [if_pos hPiece, if_neg hFits]
    exact .bind hEnd (.pure _ _)
  · refine ⟨state, .bind (.state _) ?_, h⟩
    simp only [if_neg hPiece, if_neg hFits]
    exact .pure _ _

theorem take_delivers {front rest out : List UInt8} {state : State}
    (h : At state (front ++ rest) out) :
    ∃ after, Delivers (take front.length) state front after ∧ At after rest out := by
  have hEnough : front.length ≤ (front ++ rest).length := by simp
  obtain ⟨middle, hAwait, hMiddle⟩ := await_delivers hEnough h
  have hBytes : bytesAt middle 0 front.length = front := At.extract hMiddle
  refine ⟨_, .bind hAwait (.bind (.state _) (.bind (.change _ _) ?_)), hMiddle.advance⟩
  rw [hBytes]
  exact .pure _ _

theorem number_delivers {k n : Nat} (hSmall : n < 256 ^ k) {rest out : List UInt8} {state : State}
    (h : At state (numberBytes k n ++ rest) out) :
    ∃ after, Delivers (number k) state n after ∧ At after rest out := by
  obtain ⟨after, hTake, hAfter⟩ := take_delivers h
  rw [length_numberBytes] at hTake
  refine ⟨after, .bind hTake ?_, hAfter⟩
  rw [littleEndian_number hSmall]
  exact .pure _ _

theorem write_delivers {rest out : List UInt8} {state : State} (bytes : Array UInt8)
    (h : At state rest out) :
    ∃ after, Delivers (write bytes) state () after ∧ At after rest (out ++ bytes.toList) ∧
      after.position = state.position := by
  let written : State := { state with out := state.out ++ bytes }
  have hWritten : At written rest (out ++ bytes.toList) :=
    ⟨h.position, h.rest, by rw [Array.toList_append, h.out]⟩
  obtain ⟨after, hLast, hAfter⟩ : ∃ after, Delivers (if bytes.size ≤ state.room then
        modify fun later => { later with room := state.room - bytes.size }
      else endCall : Decoder Unit) written () after ∧ At after rest (out ++ bytes.toList) ∧
        after.position = written.position := by
    split
    · exact ⟨_, .change _ _, ⟨hWritten.position, hWritten.rest, hWritten.out⟩, rfl⟩
    · exact endCall_delivers hWritten
  exact ⟨after, .bind (.state _) (.bind (.change _ _) hLast), hAfter⟩

namespace Frame

/-- A frame of which a number of bytes is still to come: its size is right, and its buffer has room
for the next block. -/
structure Roomy (frame : Frame) (left : Nat) : Prop where
  size : ∀ n, frame.header.contentSize = some n → n = frame.decoded + left
  held : frame.isHeld = true → frame.place = frame.decoded
  reused : frame.isHeld = false → frame.header.maxBlock ≤ frame.capacity ∧
    frame.place + frame.header.maxBlock ≤ frame.capacity

namespace Roomy

variable {frame : Frame} {left n : Nat}

theorem fits (h : frame.Roomy left) (hLeft : n ≤ left) (hBlock : n ≤ frame.header.maxBlock) :
    frame.place + n ≤ frame.capacity := by
  cases hHeld : frame.isHeld with
  | true =>
    have hPlace := h.held hHeld
    rw [isHeld] at hHeld
    cases hSize : frame.header.contentSize with
    | none => simp [hSize] at hHeld
    | some size =>
      have hTotal := h.size size hSize
      have hCapacity : size ≤ frame.capacity := by simpa [hSize] using hHeld
      omega
  | false =>
    have hRoom := (h.reused hHeld).2
    omega

theorem advance (h : frame.Roomy left) (hLeft : n ≤ left) :
    (frame.advance n).Roomy (left - n) where
  size total hSize := by
    have hTotal := h.size total hSize
    change total = frame.decoded + n + (left - n)
    omega
  held hHeld := by
    have hSame : frame.isHeld = true := hHeld
    have hPlace := h.held hSame
    simp only [Frame.advance, hSame, Bool.not_true, Bool.false_and, Bool.false_eq_true, if_false,
      hPlace]
  reused hHeld := by
    have hSame : frame.isHeld = false := hHeld
    obtain ⟨hBlock, -⟩ := h.reused hSame
    refine ⟨hBlock, ?_⟩
    simp only [Frame.advance, hSame, Bool.not_false, Bool.true_and, decide_eq_true_eq]
    split <;> omega

end Roomy

theorem write_delivers {frame : Frame} {left : Nat} (hRoomy : frame.Roomy left)
    {bytes : Array UInt8} (hLeft : bytes.size ≤ left) (hBlock : bytes.size ≤ frame.header.maxBlock)
    {ends : Bool} (hEnds : ends = true → bytes.size = left) {rest out : List UInt8} {state : State}
    (h : At state rest out) :
    ∃ after, Delivers (frame.write bytes ends) state (frame.advance bytes.size) after ∧
      At after rest (out ++ bytes.toList) := by
  have hFits : ¬frame.place + bytes.size > frame.capacity := by
    have hPlace := hRoomy.fits hLeft hBlock
    omega
  have hRight : ¬(ends = true ∧
      (!frame.header.contentSize.all (· == frame.decoded + bytes.size)) = true) := by
    rintro ⟨hEnd, hWrong⟩
    cases hSize : frame.header.contentSize with
    | none => simp [hSize] at hWrong
    | some size =>
      have hTotal := hRoomy.size size hSize
      have hAll := hEnds hEnd
      simp [hSize, hTotal, hAll] at hWrong
  obtain ⟨after, hWrite, hAfter, -⟩ := Zstd.write_delivers bytes h
  refine ⟨after, ?_, hAfter⟩
  unfold write
  simp only [if_neg hFits, if_neg hRight]
  exact .bind hWrite (.pure _ _)

theorem leftInPiece_pos {content rest out : List UInt8} {state : State} (hContent : content ≠ [])
    (h : At state (content ++ rest) out) : 0 < leftInPiece state := by
  have hSize := h.size
  have hSome := List.length_pos_iff.mpr hContent
  rw [List.length_append] at hSize
  simp only [leftInPiece, pieceSize]
  omega

/-- What comes of a raw block before the file goes on in its next piece. -/
theorem raw_step {isLast : Bool} {content : List UInt8} (hContent : content ≠ []) {left : Nat}
    {frame : Frame} (hRoomy : frame.Roomy left) (hLeft : content.length ≤ left)
    (hLast : isLast = true → content.length = left)
    (hBlock : content.length ≤ frame.header.maxBlock) {rest out : List UInt8} {state : State}
    (h : At state (content ++ rest) out) :
    ∃ n middle, 0 < n ∧ n ≤ content.length ∧
      At middle (content.drop n ++ rest) (out ++ content.take n) ∧
      ∀ bound final after, Delivers (if n = content.length then pure (frame.advance n)
          else (frame.advance n).raw isLast bound (content.length - n)) middle final after →
        Delivers (frame.raw isLast (bound + 1) content.length) state final after := by
  have hSome := List.length_pos_iff.mpr hContent
  have hEnough : 1 ≤ (content ++ rest).length := by
    rw [List.length_append]
    omega
  obtain ⟨begun, hAwait, hBegun⟩ := await_delivers hEnough h
  have hPiece := leftInPiece_pos hContent hBegun
  obtain ⟨n, hN⟩ : ∃ n, n = min content.length (leftInPiece begun) := ⟨_, rfl⟩
  have hFront : (content.take n).length = n := by
    rw [List.length_take]
    omega
  have hSplit : content ++ rest = content.take n ++ (content.drop n ++ rest) := by
    rw [← List.append_assoc, List.take_append_drop]
  rw [hSplit] at hBegun
  have hBytes := hBegun.extract
  have hMoved := hBegun.advance
  rw [hFront] at hBytes hMoved
  have hSize : (begun.file.extract begun.position (begun.position + n)).size = n := by
    rw [← Array.length_toList, hBytes, hFront]
  have hEnds : (isLast && n == content.length) = true →
      (begun.file.extract begun.position (begun.position + n)).size = left := by
    intro hEnd
    rw [Bool.and_eq_true, beq_iff_eq] at hEnd
    rw [hSize, hEnd.2, hLast hEnd.1]
  obtain ⟨middle, hWrite, hMiddle⟩ := write_delivers hRoomy (by omega) (by omega) hEnds hMoved
  rw [hBytes] at hMiddle
  rw [hSize] at hWrite
  refine ⟨n, middle, by omega, by omega, hMiddle, fun bound final after hRest => ?_⟩
  refine .bind hAwait (.bind (.state _) (.bind (.change _ _) ?_))
  rw [← hN]
  exact .bind hWrite hRest

/-- A raw block is written as the pieces of the file come, and the frame keeps its room. -/
theorem raw_delivers {isLast : Bool} {content : List UInt8} (hContent : content ≠ [])
    {bound left : Nat} (hBound : content.length ≤ bound) {frame : Frame}
    (hRoomy : frame.Roomy left) (hLeft : content.length ≤ left)
    (hLast : isLast = true → content.length = left)
    (hBlock : content.length ≤ frame.header.maxBlock) {rest out : List UInt8} {state : State}
    (h : At state (content ++ rest) out) :
    ∃ final after, Delivers (frame.raw isLast bound content.length) state final after ∧
      At after rest (out ++ content) ∧ final.Roomy (left - content.length) ∧
      final.header = frame.header := by
  have hSome := List.length_pos_iff.mpr hContent
  -- Each part has at least one byte, so the bound lasts for all of them.
  induction bound generalizing content left frame out state with
  | zero => omega
  | succ bound ih =>
    obtain ⟨n, middle, hPos, hMost, hMiddle, hRaw⟩ :=
      raw_step hContent hRoomy hLeft hLast hBlock h
    have hNext := @Roomy.advance _ _ n hRoomy (by omega)
    by_cases hAll : n = content.length
    · subst hAll
      rw [List.drop_length, List.take_length] at hMiddle
      refine ⟨_, middle, hRaw bound _ middle ?_, hMiddle, hNext, rfl⟩
      rw [if_pos rfl]
      exact .pure _ _
    · have hLater : (content.drop n).length = content.length - n := List.length_drop
      have hMore : content.drop n ≠ [] := List.ne_nil_of_length_pos (by omega)
      obtain ⟨final, after, hRest, hAfter, hFinal, hHeader⟩ :=
        ih hMore (by omega) hNext (by omega) (fun hEnd => by rw [hLater, hLast hEnd])
          (Nat.le_trans (by omega) hBlock) hMiddle (by omega)
      rw [List.append_assoc, List.take_append_drop] at hAfter
      refine ⟨final, after, hRaw bound final after ?_, hAfter, ?_, hHeader⟩
      · rw [if_neg hAll, ← hLater]
        exact hRest
      · rwa [hLater, Nat.sub_sub, Nat.add_sub_cancel' hMost] at hFinal

end Frame

def rawBytes (isLast : Bool) (content : List UInt8) : List UInt8 :=
  numberBytes 3 (8 * content.length + isLast.toNat) ++ content

theorem rawBytes_pos (isLast : Bool) (content : List UInt8) :
    0 < (rawBytes isLast content).length := by
  rw [rawBytes, List.length_append, length_numberBytes]
  omega

theorem BlockHeader.ofNumber_raw (size : Nat) (isLast : Bool) :
    BlockHeader.ofNumber (8 * size + isLast.toNat) = { kind := .raw, size, isLast } := by
  have hBit := Bool.toNat_lt isLast
  have hKind : (8 * size + isLast.toNat) / 2 % 4 = 0 := by omega
  have hSize : (8 * size + isLast.toNat) / 8 = size := by omega
  have hLast : decide ((8 * size + isLast.toNat) % 2 = 1) = isLast := by
    cases isLast <;> simp <;> omega
  rw [BlockHeader.ofNumber, hKind, hSize, hLast]
  rfl

/-- No block holds so much that its header would not have room for the size. -/
theorem blockNumber_small {header : FrameHeader} {size : Nat} (h : size ≤ header.maxBlock)
    (isLast : Bool) : 8 * size + isLast.toNat < 256 ^ 3 := by
  have hBit := Bool.toNat_lt isLast
  have hMost : header.maxBlock ≤ 1 <<< 17 := Nat.min_le_right _ _
  simp only [Nat.one_shiftLeft] at hMost
  omega

namespace Frame

theorem blocks_step {isLast : Bool} {content : List UInt8} {left : Nat} {frame : Frame}
    (hRoomy : frame.Roomy left) (hLeft : content.length ≤ left)
    (hLast : isLast = true → content.length = left)
    (hBlock : content.length ≤ frame.header.maxBlock) {rest out : List UInt8} {state : State}
    (h : At state (rawBytes isLast content ++ rest) out) :
    ∃ (next : Frame) (middle : State), At middle rest (out ++ content) ∧
      next.Roomy (left - content.length) ∧ next.header = frame.header ∧ ∀ bound after,
        Delivers (if isLast then pure () else next.blocks bound) middle () after →
        Delivers (frame.blocks (bound + 1)) state () after := by
  rw [rawBytes, List.append_assoc] at h
  obtain ⟨begun, hNumber, hBegun⟩ := Zstd.number_delivers (blockNumber_small hBlock isLast) h
  have hHeader := BlockHeader.ofNumber_raw content.length isLast
  have hValid : ¬(BlockKind.raw = .reserved ∨ content.length > frame.header.maxBlock) := by
    rintro (hKind | hLong)
    · cases hKind
    · omega
  by_cases hEmpty : content.length = 0
  · have hBegunEmpty := hBegun
    rw [List.length_eq_zero_iff.mp hEmpty, List.nil_append] at hBegunEmpty
    refine ⟨frame, begun, ?_, ?_, rfl, fun bound after hRest => .bind hNumber ?_⟩
    · rwa [List.length_eq_zero_iff.mp hEmpty, List.append_nil]
    · rwa [hEmpty]
    · rw [hHeader]
      simp only [BlockHeader.stored, hValid, if_false]
      simp only [hEmpty, if_true]
      exact .bind (.pure _ _) hRest
  · have hContent : content ≠ [] := List.ne_nil_of_length_pos (Nat.pos_of_ne_zero hEmpty)
    obtain ⟨next, middle, hRaw, hMiddle, hNext, hSame⟩ :=
      raw_delivers hContent (Nat.le_succ _) hRoomy hLeft hLast hBlock hBegun
    refine ⟨next, middle, hMiddle, hNext, hSame, fun bound after hRest => .bind hNumber ?_⟩
    rw [hHeader]
    simp only [BlockHeader.stored, hValid, if_false, hEmpty]
    exact .bind hRaw hRest

theorem blocks_delivers {content : List UInt8} {later : List (List UInt8)} {frame : Frame}
    (hRoomy : frame.Roomy (content :: later).flatten.length)
    (hBlocks : ∀ block ∈ content :: later, block.length ≤ frame.header.maxBlock)
    {rest out : List UInt8} {state : State}
    (h : At state (blockData rawBytes content later ++ rest) out) {bound : Nat}
    (hBound : later.length ≤ bound) :
    ∃ after, Delivers (frame.blocks (bound + 1)) state () after ∧
      At after rest (out ++ (content :: later).flatten) := by
  have hFirst := hBlocks content List.mem_cons_self
  have hLeft : content.length ≤ (content :: later).flatten.length := by
    rw [List.flatten_cons, List.length_append]
    exact Nat.le_add_right _ _
  induction later generalizing content frame state out bound with
  | nil =>
    rw [List.flatten_singleton] at hRoomy ⊢
    obtain ⟨next, middle, hMiddle, -, -, hStep⟩ :=
      blocks_step hRoomy (Nat.le_refl _) (fun _ => rfl) hFirst h
    exact ⟨middle, hStep bound middle (.pure _ _), hMiddle⟩
  | cons second later ih =>
    rw [blockData, List.append_assoc] at h
    obtain ⟨next, middle, hMiddle, hNext, hHeader, hStep⟩ :=
      blocks_step hRoomy hLeft (fun hEnd => absurd hEnd Bool.false_ne_true) hFirst h
    obtain ⟨bound, rfl⟩ := Nat.exists_eq_add_of_le' (Nat.one_le_of_lt hBound)
    rw [List.flatten_cons, List.length_append, Nat.add_sub_cancel_left] at hNext
    have hLater : ∀ block ∈ second :: later, block.length ≤ next.header.maxBlock := by
      intro block hMem
      rw [hHeader]
      exact hBlocks block (List.mem_cons_of_mem _ hMem)
    obtain ⟨after, hRest, hAfter⟩ := ih hNext hLater hMiddle (Nat.le_of_succ_le_succ hBound)
      (hLater second List.mem_cons_self) (by simp)
    refine ⟨after, hStep _ after hRest, ?_⟩
    rwa [List.flatten_cons, ← List.append_assoc]

end Frame

theorem Buffers.le_fit (buffers : Buffers) (input output : Nat) :
    output ≤ (buffers.fit input output).output := by
  simp only [Buffers.fit]
  generalize (if buffers.input + buffers.output ≥ (input + output) * 3 then
    buffers.oversized + 1 else 0) = oversized
  split
  · exact Nat.le_refl _
  · simp only
    omega

/-- The first block that is found, and where the next one is looked for. -/
theorem blocksWithin?_step {file : Array UInt8} {position : Nat} {isLast : Bool}
    {content rest : List UInt8}
    (hFile : file.toList.drop position = rawBytes isLast content ++ rest)
    (hSmall : 8 * content.length + isLast.toNat < 256 ^ 3) {limit bound : Nat}
    {found : List (BlockHeader × Nat)} (h : blocksWithin? file limit bound position = some found) :
    ∃ more,
      found = ({ kind := .raw, size := content.length, isLast }, position + 3) :: more ∧
      (if isLast then some [] else
        blocksWithin? file limit (bound - 1) (position + 3 + content.length)) = some more := by
  cases bound with
  | zero => cases h
  | succ bound =>
    rw [rawBytes, List.append_assoc] at hFile
    have hNumber := extract_of_drop hFile
    rw [length_numberBytes] at hNumber
    simp only [blocksWithin?, hNumber, littleEndian_number hSmall, BlockHeader.ofNumber_raw,
      BlockHeader.stored] at h
    split at h
    · cases h
    · cases isLast with
      | true => exact ⟨[], (Option.some.inj h).symm, rfl⟩
      | false =>
        obtain ⟨more, hMore, hFound⟩ := Option.map_eq_some_iff.mp h
        exact ⟨more, hFound.symm, hMore⟩

theorem contentOf?_raw {file : Array UInt8} {position size : Nat} {isLast : Bool}
    {content rest : List UInt8} (hFile : file.toList.drop position = content ++ rest)
    {before : Array UInt8} (hSize : before.size + content.length ≤ size)
    (more : List (BlockHeader × Nat)) :
    ∃ after, after.toList = before.toList ++ content ∧
      contentOf? file size before
        (({ kind := .raw, size := content.length, isLast }, position) :: more) =
          contentOf? file size after more := by
  have hFits : ¬before.size + content.length > size := by omega
  refine ⟨before ++ file.extract position (position + content.length), ?_, ?_⟩
  · rw [Array.toList_append, extract_of_drop hFile]
  · simp only [contentOf?, if_neg hFits, blockBytes?, Option.bind_eq_bind, Option.bind_some]

/-- Blocks that are found in a piece of the file are those of the frame. -/
theorem blocksWithin?_raw {file : Array UInt8} {position : Nat} {content : List UInt8}
    {later : List (List UInt8)} {rest : List UInt8}
    (hFile : file.toList.drop position = blockData rawBytes content later ++ rest)
    {header : FrameHeader}
    (hBlocks : ∀ block ∈ content :: later, block.length ≤ header.maxBlock) {limit bound : Nat}
    {found : List (BlockHeader × Nat)} (h : blocksWithin? file limit bound position = some found)
    {before : Array UInt8} {size : Nat}
    (hSize : before.size + (content :: later).flatten.length = size) :
    (∃ whole, contentOf? file size before found = some whole ∧
        whole.toList = before.toList ++ (content :: later).flatten) ∧
      ∃ block start, found.getLast? = some (block, start) ∧
        start + block.stored = position + (blockData rawBytes content later).length := by
  have hFirst := hBlocks content List.mem_cons_self
  induction later generalizing content position bound found before with
  | nil =>
    obtain ⟨more, rfl, hMore⟩ := blocksWithin?_step hFile (blockNumber_small hFirst true) h
    cases hMore
    rw [blockData, rawBytes, List.append_assoc] at hFile
    have hData := drop_of_drop hFile
    rw [length_numberBytes] at hData
    rw [List.flatten_singleton] at hSize ⊢
    obtain ⟨after, hAfter, hContent⟩ := @contentOf?_raw file _ size true _ _ hData before
      (Nat.le_of_eq hSize) []
    have hAll : after.size = size := by
      rw [← Array.length_toList, hAfter, List.length_append, Array.length_toList, hSize]
    refine ⟨⟨after, ?_, hAfter⟩, _, _, rfl, ?_⟩
    · rw [hContent, contentOf?, if_pos hAll]
    · simp only [BlockHeader.stored, blockData, rawBytes, List.length_append, length_numberBytes,
        Nat.add_assoc]
  | cons second later ih =>
    rw [blockData, List.append_assoc] at hFile
    obtain ⟨more, rfl, hMore⟩ := blocksWithin?_step hFile (blockNumber_small hFirst false) h
    have hRest := drop_of_drop hFile
    rw [rawBytes, List.append_assoc] at hFile
    have hData := drop_of_drop hFile
    rw [length_numberBytes] at hData
    rw [List.flatten_cons, List.length_append] at hSize
    obtain ⟨after, hAfter, hContent⟩ := @contentOf?_raw file _ size false _ _ hData before
      (by omega) more
    have hNext : position + (rawBytes false content).length = position + 3 + content.length := by
      rw [rawBytes, List.length_append, length_numberBytes, Nat.add_assoc]
    rw [hNext] at hRest
    have hLater := fun block hMem => hBlocks block (List.mem_cons_of_mem content hMem)
    have hLeft : after.size + (second :: later).flatten.length = size := by
      rw [← Array.length_toList, hAfter, List.length_append, Array.length_toList]
      omega
    obtain ⟨⟨whole, hWhole, hBytes⟩, block, start, hLast, hEnd⟩ :=
      ih hRest hLater hMore hLeft (hLater second List.mem_cons_self)
    refine ⟨⟨whole, hContent.trans hWhole, ?_⟩, block, start, ?_, ?_⟩
    · simp only [hBytes, hAfter, List.append_assoc, List.flatten_cons]
    · rw [List.getLast?_cons, hLast]
      rfl
    · rw [hEnd, blockData, List.length_append, ← Nat.add_assoc, hNext]

/-- A frame of raw blocks that has neither a checksum nor a dictionary, with its header. Frames with
a checksum and compressed blocks are outside of what is proved: `FrameHeader.ofFields?` and
`blockBytes?` refuse them, although decoders in use take them. -/
structure RawFrame where
  descriptor : UInt8
  fields : List UInt8
  header : FrameHeader
  first : List UInt8
  later : List (List UInt8)
  described : FrameHeader.ofFields? descriptor.toNat fields = some header
  fields_length : FrameHeader.length descriptor.toNat = 5 + fields.length
  dictionary : header.dictionary = 0
  window : header.windowSize ≤ FrameHeader.maxWindow
  blocks_short : ∀ block ∈ first :: later, block.length ≤ header.maxBlock
  size : ∀ n, header.contentSize = some n → n = (first :: later).flatten.length

namespace RawFrame

variable (frame : RawFrame)

def content : List UInt8 := (frame.first :: frame.later).flatten

def bytes : List UInt8 :=
  numberBytes 4 frameMagic ++
    (frame.descriptor :: frame.fields ++ blockData rawBytes frame.first frame.later)

/-- The buffer that is made for a frame is large enough for it. -/
theorem roomy {capacity : Nat}
    (h : min (max frame.header.windowSize minWindow + 2 * frame.header.maxBlock + 2 * margin)
      (frame.header.contentSize.getD (max frame.header.windowSize minWindow +
        2 * frame.header.maxBlock + 2 * margin)) ≤ capacity) :
    Frame.Roomy { header := frame.header, capacity } frame.content.length where
  size n hSize := (frame.size n hSize).trans (Nat.zero_add _).symm
  held _ := rfl
  reused hHeld := by
    have hWhole : max frame.header.windowSize minWindow + 2 * frame.header.maxBlock + 2 * margin ≤
        capacity := by
      -- A buffer that is smaller than the frame is as large as one for a frame of unknown size.
      simp only [Frame.isHeld] at hHeld
      cases hSize : frame.header.contentSize with
      | none => simpa [hSize] using h
      | some size =>
        simp only [hSize, Option.getD_some, decide_eq_false_iff_not] at h hHeld
        omega
    simp only
    omega

theorem streamedFrame_delivers {rest out : List UInt8} {state : State}
    (h : At state (blockData rawBytes frame.first frame.later ++ rest) out) :
    ∃ after, Delivers (streamedFrame frame.header) state () after ∧
      At after rest (out ++ frame.content) := by
  have hWindow : ¬frame.header.windowSize > FrameHeader.maxWindow := by
    have hMost := frame.window
    omega
  let whole := max frame.header.windowSize minWindow + 2 * frame.header.maxBlock + 2 * margin
  let prepared : State := { state with
    buffers := state.buffers.fit (max frame.header.maxBlock 4)
      (min whole (frame.header.contentSize.getD whole)) }
  have hPrepared : At prepared (blockData rawBytes frame.first frame.later ++ rest) out :=
    ⟨h.position, h.rest, h.out⟩
  have hRoomy := frame.roomy (Buffers.le_fit state.buffers (max frame.header.maxBlock 4) _)
  have hBound : frame.later.length ≤ prepared.file.size - prepared.position := by
    have hSize := hPrepared.size
    have hLength := @length_blockData rawBytes rawBytes_pos frame.first frame.later
    rw [List.length_append] at hSize
    omega
  obtain ⟨after, hBlocks, hAfter⟩ :=
    Frame.blocks_delivers hRoomy frame.blocks_short hPrepared hBound
  refine ⟨after, ?_, hAfter⟩
  unfold streamedFrame
  rw [if_neg hWindow]
  exact .bind (.change _ _) (.bind (.state _) hBlocks)

theorem wholeFrame_delivers {rest out : List UInt8} {state : State}
    (h : At state (blockData rawBytes frame.first frame.later ++ rest) out) {limit bound : Nat}
    {blocks : List (BlockHeader × Nat)}
    (hFound : blocksWithin? state.file limit bound state.position = some blocks) :
    ∃ after, Delivers (wholeFrame frame.content.length blocks) state () after ∧
      At after rest (out ++ frame.content) := by
  obtain ⟨⟨whole, hWhole, hBytes⟩, block, start, hLast, hEnd⟩ :=
    @blocksWithin?_raw _ _ _ _ _ h.rest frame.header frame.blocks_short _ _ _ hFound #[]
      frame.content.length (Nat.zero_add _)
  obtain ⟨middle, hWrite, hMiddle, hPosition⟩ := write_delivers whole h
  have hContent : whole.toList = frame.content := hBytes
  have hAfter := hMiddle.advance
  rw [hPosition, ← hEnd, hContent] at hAfter
  refine ⟨_, .bind (.state _) ?_, hAfter⟩
  simp only [hWhole, hLast]
  exact .bind hWrite (.change _ _)

theorem atOnce?_spec {state : State} {header : FrameHeader} {start size : Nat}
    {blocks : List (BlockHeader × Nat)} (h : atOnce? state header start = some (size, blocks)) :
    header.contentSize = some size ∧
      ∃ limit bound, blocksWithin? state.file limit bound start = some blocks := by
  unfold atOnce? at h
  cases hSize : header.contentSize with
  | none =>
    rw [hSize] at h
    cases h
  | some known =>
    simp only [hSize, Option.bind_eq_bind, Option.bind_some] at h
    split at h
    · cases h
    · obtain ⟨found, hFound, hBoth⟩ := Option.bind_eq_some_iff.mp h
      cases hBoth
      exact ⟨rfl, _, _, hFound⟩

theorem contentFrame_delivers {rest out : List UInt8} {state : State}
    (h : At state (frame.bytes ++ rest) out) :
    ∃ after, Delivers contentFrame state () after ∧ At after rest (out ++ frame.content) := by
  have hBytes : frame.bytes ++ rest = numberBytes 4 frameMagic ++ ([frame.descriptor] ++
      (frame.fields ++ (blockData rawBytes frame.first frame.later ++ rest))) := by
    simp only [bytes, List.append_assoc, List.cons_append, List.nil_append]
  rw [hBytes] at h
  obtain ⟨first, hAwait, hFirst⟩ := @await_delivers 5 _ _
    (by simp only [List.length_append, length_numberBytes, List.length_singleton]; omega) _ h
  have hDescriptor : littleEndian (bytesAt first 4 1) = frame.descriptor.toNat := by
    have hByte := hFirst.bytesAt_skip
    rw [length_numberBytes, List.length_singleton] at hByte
    rw [hByte, littleEndian, littleEndian, Nat.mul_zero, Nat.add_zero]
  obtain ⟨second, hAwaitAll, hSecond⟩ := @await_delivers (5 + frame.fields.length) _ _
    (by simp only [List.length_append, length_numberBytes, List.length_singleton]; omega) _ hFirst
  rw [← List.append_assoc] at hSecond
  have hStart : (numberBytes 4 frameMagic ++ [frame.descriptor]).length = 5 := by
    rw [List.length_append, length_numberBytes, List.length_singleton]
  have hFields : bytesAt second 5 (5 + frame.fields.length - 5) = frame.fields := by
    have hSkipped := hSecond.bytesAt_skip
    rwa [hStart, ← Nat.add_sub_cancel_left 5 frame.fields.length] at hSkipped
  rw [← List.append_assoc] at hSecond
  have hMoved := hSecond.advance
  rw [List.length_append, hStart] at hMoved
  have hDictionary : ¬frame.header.dictionary ≠ 0 := fun hNot => hNot frame.dictionary
  have hDescribed := frame.described
  -- Where the pieces of the file end decides whether the frame is decoded at once.
  have hRead {last : Decoder Unit} {after : State}
      (hLast : atOnce? second frame.header (second.position + (5 + frame.fields.length)) = none ∧
          last = streamedFrame frame.header ∨
        ∃ size blocks, atOnce? second frame.header
          (second.position + (5 + frame.fields.length)) = some (size, blocks) ∧
            last = wholeFrame size blocks)
      (hRest : Delivers last
        { second with position := second.position + (5 + frame.fields.length) } () after) :
      Delivers contentFrame state () after := by
    refine .bind hAwait (.bind (.state _) ?_)
    simp only [hDescriptor, frame.fields_length]
    refine .bind hAwaitAll (.bind (.state _) ?_)
    simp only [hFields, hDescribed, if_neg hDictionary]
    refine .bind (.change _ _) ?_
    obtain ⟨hWholly, rfl⟩ | ⟨size, blocks, hWholly, rfl⟩ := hLast
    · rw [hWholly]
      exact hRest
    · rw [hWholly]
      exact hRest
  cases hWholly : atOnce? second frame.header (second.position + (5 + frame.fields.length)) with
  | none =>
    obtain ⟨after, hStreamed, hAfter⟩ := frame.streamedFrame_delivers hMoved
    exact ⟨after, hRead (.inl ⟨hWholly, rfl⟩) hStreamed, hAfter⟩
  | some wholly =>
    obtain ⟨size, blocks⟩ := wholly
    obtain ⟨hSize, limit, bound, hBlocks⟩ := atOnce?_spec hWholly
    have hContent : size = frame.content.length := frame.size _ hSize
    rw [hContent] at hWholly
    obtain ⟨after, hWhole, hAfter⟩ := frame.wholeFrame_delivers hMoved hBlocks
    exact ⟨after, hRead (.inr ⟨_, _, hWholly, rfl⟩) hWhole, hAfter⟩

theorem frames_step {rest out : List UInt8} {state : State}
    (h : At state (frame.bytes ++ rest) out) :
    ∃ middle, At middle rest (out ++ frame.content) ∧ ∀ bound after,
      Delivers (if rest = [] then pure () else frames bound) middle () after →
      Delivers (frames (bound + 1)) state () after := by
  have hEnough : 4 ≤ (frame.bytes ++ rest).length := by
    simp only [bytes, List.length_append, length_numberBytes]
    omega
  obtain ⟨first, hAwait, hFirst⟩ := await_delivers hEnough h
  have hMagic : littleEndian (bytesAt first 0 4) = frameMagic := by
    have hBytes := hFirst.rest
    rw [bytes, List.append_assoc] at hBytes
    have hNumber := extract_of_drop hBytes
    rw [length_numberBytes] at hNumber
    have hSmall : frameMagic < 256 ^ 4 := by decide
    exact (congrArg littleEndian hNumber).trans (littleEndian_number hSmall)
  obtain ⟨second, hContent, hSecond⟩ := frame.contentFrame_delivers hFirst
  obtain ⟨middle, hEnd, hMiddle, -⟩ := endCall_delivers hSecond
  refine ⟨middle, hMiddle, fun bound after hRest => .bind hAwait (.bind (.state _) ?_)⟩
  have hKind : isSkippable frameMagic = false := rfl
  simp only [hMagic, hKind, Bool.false_eq_true, if_false, if_true]
  refine .bind hContent (.bind hEnd (.bind (.state _) ?_))
  have hDone : middle.position = middle.file.size ↔ rest = [] := by
    rw [hMiddle.size, ← List.length_eq_zero_iff]
    omega
  simp only [hDone]
  exact hRest

theorem bytes_ne_nil : frame.bytes ≠ [] := by
  have hNumber : numberBytes 4 frameMagic = 0x28 :: [0xB5, 0x2F, 0xFD] := rfl
  rw [bytes, hNumber]
  exact List.cons_ne_nil _ _

theorem length_bytes (frames : List RawFrame) :
    frames.length ≤ (frames.flatMap RawFrame.bytes).length := by
  induction frames with
  | nil => exact Nat.zero_le _
  | cons frame later ih =>
    have hSome := List.length_pos_iff.mpr frame.bytes_ne_nil
    rw [List.flatMap_cons, List.length_append, List.length_cons]
    omega

/-- Frames are decoded one after the other, up to the end of the file. -/
theorem frames_delivers {frame : RawFrame} {later : List RawFrame} {out : List UInt8}
    {state : State} (h : At state ((frame :: later).flatMap RawFrame.bytes) out) {bound : Nat}
    (hBound : later.length ≤ bound) :
    ∃ after, Delivers (frames (bound + 1)) state () after ∧
      after.out.toList = out ++ (frame :: later).flatMap RawFrame.content := by
  rw [List.flatMap_cons] at h
  obtain ⟨middle, hMiddle, hFrames⟩ := frame.frames_step h
  induction later generalizing frame state out bound middle with
  | nil =>
    refine ⟨middle, hFrames bound middle (.pure _ _), ?_⟩
    rw [List.flatMap_singleton, hMiddle.out]
  | cons next later ih =>
    obtain ⟨bound, rfl⟩ := Nat.exists_eq_add_of_le' (Nat.one_le_of_lt hBound)
    have hMore : (next :: later).flatMap RawFrame.bytes ≠ [] := by
      rw [List.flatMap_cons]
      exact List.append_ne_nil_of_left_ne_nil next.bytes_ne_nil _
    have hLater := hMiddle
    rw [List.flatMap_cons] at hLater
    obtain ⟨second, hSecond, hNext⟩ := next.frames_step hLater
    obtain ⟨after, hRest, hAfter⟩ :=
      ih hLater (Nat.le_of_succ_le_succ hBound) second hSecond hNext
    refine ⟨after, hFrames _ after ?_, ?_⟩
    · rw [if_neg hMore]
      exact hRest
    · rw [hAfter, List.flatMap_cons, List.flatMap_cons, List.append_assoc]
      rfl

/-- A frame for each content, with the smallest window. -/
def ofContent (content : List UInt8) : RawFrame where
  descriptor := 0
  fields := [0]
  header := { contentSize := none, windowSize := minWindow, dictionary := 0 }
  first := []
  later := bytewise content
  described := by decide
  fields_length := by decide
  dictionary := rfl
  window := by decide
  blocks_short _ hMem := Nat.le_trans (length_bytewise hMem) (by decide)
  size := nofun

@[simp] theorem content_ofContent (content : List UInt8) : (ofContent content).content = content :=
  flatten_bytewise content

end RawFrame

theorem decode_frames (frame : RawFrame) (later : List RawFrame) :
    decode ((frame :: later).flatMap RawFrame.bytes) =
      { bytes := (frame :: later).flatMap RawFrame.content, intact := true } := by
  have hStart : At { file := ((frame :: later).flatMap RawFrame.bytes).toArray }
      ((frame :: later).flatMap RawFrame.bytes) [] := ⟨Nat.zero_le _, rfl, rfl⟩
  have hBound : later.length ≤ ((frame :: later).flatMap RawFrame.bytes).length :=
    Nat.le_of_succ_le (RawFrame.length_bytes (frame :: later))
  obtain ⟨after, hFrames, hOut⟩ := RawFrame.frames_delivers hStart hBound
  have hRun : (frames (((frame :: later).flatMap RawFrame.bytes).length + 1)).run
      { file := ((frame :: later).flatMap RawFrame.bytes).toArray } = (.ok (), after) := hFrames
  rw [decode, hRun]
  simp only [hOut, List.nil_append]

end ValidityTables.Compressed.Zstd
