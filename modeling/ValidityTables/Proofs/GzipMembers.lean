import ValidityTables.Compressed.Gzip
import ValidityTables.Proofs.Decoders

/-! # Gzip members of stored blocks

A member is decoded to its content, whatever comes after it.
-/

namespace ValidityTables.Compressed

namespace Bits

/-- Bits that begin at a byte. -/
def aligned (bytes : List UInt8) (position : Nat) : Bits := { bytes, position }

theorem take?_within {n count : Nat} (h : n ≤ count) (pending : Nat) (bytes : List UInt8)
    (position : Nat) :
    take? n ⟨pending, count, bytes, position⟩ =
      some (pending % 2 ^ n, ⟨pending / 2 ^ n, count - n, bytes, position⟩) := by
  induction n generalizing pending count with
  | zero => simp [take?, Nat.mod_one]
  | succ n ih =>
    have hNext : next? ⟨pending, count, bytes, position⟩ =
        some (pending % 2, ⟨pending / 2, count - 1, bytes, position⟩) := by
      rw [next?, if_neg (by simp only; omega)]
    have hWithin : n ≤ count - 1 := by omega
    have hRest := ih hWithin (pending / 2)
    rw [take?, hNext]
    simp only [Option.bind_eq_bind, Option.bind_some, hRest, Option.pure_def]
    rw [Nat.pow_succ', Nat.mod_mul, Nat.div_div_eq_div_mul, Nat.sub_sub, Nat.add_comm 1 n]

/-- The first bits of a byte. -/
theorem take?_begun {n : Nat} (h : n ≤ 7) (b : UInt8) (rest : List UInt8) (position : Nat) :
    take? (n + 1) (aligned (b :: rest) position) =
      some (b.toNat % 2 ^ (n + 1), ⟨b.toNat / 2 ^ (n + 1), 7 - n, rest, position + 1⟩) := by
  have hNext : next? (aligned (b :: rest) position) =
      some (b.toNat % 2, ⟨b.toNat / 2, 7, rest, position + 1⟩) := rfl
  rw [take?, hNext]
  simp only [Option.bind_eq_bind, Option.bind_some, take?_within h, Option.pure_def]
  rw [Nat.pow_succ', Nat.mod_mul, Nat.div_div_eq_div_mul]

theorem take?_add (m n : Nat) (bits : Bits) :
    take? (m + n) bits = (take? m bits).bind fun (low, middle) =>
      (take? n middle).map fun (high, after) => (low + 2 ^ m * high, after) := by
  induction m generalizing bits with
  | zero => simp [take?]
  | succ m ih =>
    rw [Nat.succ_add, take?, take?]
    cases hNext : bits.next? with
    | none => rfl
    | some found =>
      simp only [Option.bind_eq_bind, Option.bind_some, ih]
      cases take? m found.2 with
      | none => rfl
      | some low =>
        simp only [Option.bind_some, Option.pure_def]
        cases take? n low.2 with
        | none => rfl
        | some high =>
          simp only [Option.map_some, Option.bind_some]
          rw [Nat.pow_succ', Nat.mul_add, ← Nat.mul_assoc, Nat.add_assoc]

/-- Whole bytes give the number whose bytes they are. -/
theorem take?_bytes (front rest : List UInt8) (position : Nat) :
    take? (8 * front.length) (aligned (front ++ rest) position) =
      some (littleEndian front, aligned rest (position + front.length)) := by
  induction front generalizing position with
  | nil => rfl
  | cons b front ih =>
    have hByte : take? 8 (aligned (b :: (front ++ rest)) position) =
        some (b.toNat, aligned (front ++ rest) (position + 1)) := by
      have hSmall : b.toNat < 2 ^ (7 + 1) := b.toNat_lt
      rw [take?_begun (Nat.le_refl 7), Nat.mod_eq_of_lt hSmall, Nat.div_eq_of_lt hSmall]
      rfl
    have hRest := ih (position + 1)
    rw [Nat.add_assoc, Nat.add_comm 1 front.length] at hRest
    rw [List.length_cons, Nat.mul_succ, Nat.add_comm, List.cons_append, take?_add, hByte]
    exact congrArg (Option.map fun (high, after) => (b.toNat + 2 ^ 8 * high, after)) hRest

end Bits

namespace Deflate

/-- What is left to read, from the beginning of a byte, and what was written. -/
structure At (state : State) (rest out : List UInt8) : Prop where
  source : state.source = Bits.aligned rest state.source.position
  out : state.out.toList = out

theorem bits_delivers {n value : Nat} {source : Bits} {state : State}
    (h : state.source.take? n = some (value, source)) :
    ∃ after, Delivers (bits n) state value after ∧ after.source = source ∧
      after.out = state.out := by
  have hTaken : Delivers (orThrow .cutShort (state.source.take? n)) state (value, source)
      state := by
    rw [h]
    exact .pure _ _
  let read : State := { state with source }
  -- A new piece of the file only moves the mark of what was written before it.
  unfold bits
  by_cases hPiece : piecesOf state.source.position < piecesOf source.position
  · refine ⟨{ read with writtenBefore := read.out.size },
      .bind (.state _) (.bind (.state _) (.bind hTaken (.bind (.change _ _) ?_))), rfl, rfl⟩
    simp only [if_pos hPiece]
    exact .bind (.change _ _) (.pure _ _)
  · refine ⟨read,
      .bind (.state _) (.bind (.state _) (.bind hTaken (.bind (.change _ _) ?_))), rfl, rfl⟩
    simp only [if_neg hPiece]
    exact .pure _ _

theorem number_delivers {front rest out : List UInt8} {state : State}
    (h : At state (front ++ rest) out) :
    ∃ after, Delivers (bits (8 * front.length)) state (littleEndian front) after ∧
      At after rest out := by
  have hTaken := Bits.take?_bytes front rest state.source.position
  rw [← h.source] at hTaken
  obtain ⟨after, hBits, hSource, hOut⟩ := bits_delivers hTaken
  refine ⟨after, hBits, ⟨?_, ?_⟩⟩
  · rw [hSource]
    rfl
  · rw [hOut, h.out]

theorem copyBytes_delivers {content rest out : List UInt8} {state : State}
    (h : At state (content ++ rest) out) :
    ∃ after, Delivers (copyBytes content.length) state () after ∧
      At after rest (out ++ content) := by
  induction content generalizing state out with
  | nil => exact ⟨state, .pure _ _, by rwa [List.append_nil]⟩
  | cons b content ih =>
    obtain ⟨middle, hByte, hMiddle⟩ := @number_delivers [b] (content ++ rest) out state h
    have hEmitted : At { middle with out := middle.out.push b } (content ++ rest) (out ++ [b]) :=
      ⟨hMiddle.source, by rw [Array.toList_push, hMiddle.out]⟩
    obtain ⟨after, hRest, hAfter⟩ := ih hEmitted
    have hValue : UInt8.ofNat (littleEndian [b]) = b := by simp [littleEndian]
    have hEmit : Delivers (emit (UInt8.ofNat (littleEndian [b]))) middle ()
        { middle with out := middle.out.push b } := by
      rw [hValue]
      exact .change _ _
    refine ⟨after, .bind hByte (.bind hEmit hRest), ?_⟩
    rwa [List.append_assoc] at hAfter

def storedBytes (isLast : Bool) (content : List UInt8) : List UInt8 :=
  (if isLast then 1 else 0) ::
    (numberBytes 2 content.length ++ (numberBytes 2 (65535 - content.length) ++ content))

theorem storedBlock_delivers {content rest out : List UInt8} (hShort : content.length ≤ 65535)
    {state : State} (hSource : state.source.bytes = numberBytes 2 content.length ++
      (numberBytes 2 (65535 - content.length) ++ (content ++ rest)))
    (hOut : state.out.toList = out) :
    ∃ after, Delivers storedBlock state () after ∧ At after rest (out ++ content) := by
  have hAligned : At { state with source := state.source.alignToByte }
      (numberBytes 2 content.length ++
        (numberBytes 2 (65535 - content.length) ++ (content ++ rest))) out :=
    ⟨by rw [← hSource]; rfl, hOut⟩
  obtain ⟨first, hLength, hFirst⟩ := number_delivers hAligned
  obtain ⟨second, hComplement, hSecond⟩ := number_delivers hFirst
  obtain ⟨after, hCopy, hAfter⟩ := copyBytes_delivers hSecond
  rw [length_numberBytes, littleEndian_number (by omega)] at hLength hComplement
  refine ⟨after, .bind (.change _ _) (.bind hLength (.bind hComplement ?_)), hAfter⟩
  have hSum : content.length + (65535 - content.length) = 0xFFFF := by omega
  rw [if_pos hSum]
  exact hCopy

/-- The header of a block tells whether it is the last one, and that it is stored. -/
theorem header_delivers {b : UInt8} (hStored : b.toNat < 2) {rest out : List UInt8} {state : State}
    (h : At state (b :: rest) out) :
    ∃ middle after, Delivers (bits 1) state b.toNat middle ∧ Delivers (bits 2) middle 0 after ∧
      after.source.bytes = rest ∧ after.out.toList = out := by
  have hOne : b.toNat < 2 ^ (0 + 1) := hStored
  have hFirst := Bits.take?_begun (Nat.zero_le 7) b rest state.source.position
  rw [← h.source, Nat.mod_eq_of_lt hOne, Nat.div_eq_of_lt hOne] at hFirst
  obtain ⟨middle, hLast, hMiddle, hOut⟩ := bits_delivers hFirst
  have hSecond := @Bits.take?_within 2 (7 - 0) (by decide) 0 rest (state.source.position + 1)
  rw [← hMiddle] at hSecond
  obtain ⟨after, hKind, hAfter, hSame⟩ := bits_delivers hSecond
  exact ⟨middle, after, hLast, hKind, by rw [hAfter], by rw [hSame, hOut, h.out]⟩

theorem blocks_step {isLast : Bool} {content : List UInt8} (hShort : content.length ≤ 65535)
    {rest out : List UInt8} {state : State}
    (h : At state (storedBytes isLast content ++ rest) out) :
    ∃ middle, At middle rest (out ++ content) ∧ ∀ bound after,
      Delivers (if isLast then pure () else blocks bound) middle () after →
      Delivers (blocks (bound + 1)) state () after := by
  have hBytes : storedBytes isLast content ++ rest = (if isLast then 1 else 0) ::
      (numberBytes 2 content.length ++ (numberBytes 2 (65535 - content.length) ++
        (content ++ rest))) := by
    simp only [storedBytes, List.cons_append, List.append_assoc]
  have hStored : (if isLast then 1 else 0 : UInt8).toNat < 2 := by cases isLast <;> decide
  rw [hBytes] at h
  obtain ⟨first, second, hLast, hKind, hSource, hOut⟩ := header_delivers hStored h
  obtain ⟨middle, hBlock, hMiddle⟩ := storedBlock_delivers hShort hSource hOut
  refine ⟨middle, hMiddle, fun bound after hRest => ?_⟩
  refine .bind hLast (.bind hKind (.bind hBlock ?_))
  cases isLast with
  | true => exact hRest
  | false => exact hRest

/-- Blocks are decoded one after the other, up to the last one. -/
theorem blocks_delivers {content : List UInt8} {later : List (List UInt8)}
    (hShort : ∀ block ∈ content :: later, block.length ≤ 65535) {rest out : List UInt8}
    {state : State} (h : At state (blockData storedBytes content later ++ rest) out) {bound : Nat}
    (hBound : later.length ≤ bound) :
    ∃ after, Delivers (blocks (bound + 1)) state () after ∧
      At after rest (out ++ (content :: later).flatten) := by
  have hFirst := hShort content List.mem_cons_self
  -- Each block leaves the source at the beginning of a byte, where the next one begins.
  induction later generalizing content state out bound with
  | nil =>
    obtain ⟨middle, hMiddle, hBlocks⟩ := blocks_step hFirst h
    refine ⟨middle, hBlocks bound middle (.pure _ _), ?_⟩
    rwa [List.flatten_singleton]
  | cons next later ih =>
    rw [blockData, List.append_assoc] at h
    obtain ⟨middle, hMiddle, hBlocks⟩ := blocks_step hFirst h
    obtain ⟨bound, rfl⟩ := Nat.exists_eq_add_of_le' (Nat.one_le_of_lt hBound)
    have hNext := fun block hMem => hShort block (List.mem_cons_of_mem _ hMem)
    obtain ⟨after, hRest, hAfter⟩ := ih hNext hMiddle (Nat.le_of_succ_le_succ hBound)
      (hNext next List.mem_cons_self)
    refine ⟨after, hBlocks _ after hRest, ?_⟩
    rwa [List.flatten_cons, ← List.append_assoc]

theorem decode_stored {content : List UInt8} {later : List (List UInt8)}
    (hShort : ∀ block ∈ content :: later, block.length ≤ 65535) (position : Nat)
    (rest : List UInt8) :
    ∃ after, decode position (blockData storedBytes content later ++ rest) = (.ok (), after) ∧
      after.source.bytes = rest ∧ after.out.toList = (content :: later).flatten := by
  have hStart : At { source := Bits.aligned (blockData storedBytes content later ++ rest) position }
      (blockData storedBytes content later ++ rest) [] := ⟨rfl, rfl⟩
  have hBound : later.length ≤
      (Bits.aligned (blockData storedBytes content later ++ rest) position).size := by
    have hLength := @length_blockData storedBytes (fun _ _ => Nat.zero_lt_succ _) content later
    simp only [Bits.size, Bits.aligned, List.length_append]
    omega
  obtain ⟨after, hBlocks, hAfter⟩ := blocks_delivers hShort hStart hBound
  exact ⟨after, hBlocks, by rw [hAfter.source]; rfl, by rw [hAfter.out, List.nil_append]⟩

end Deflate

namespace Gzip

/-- A member whose data are stored blocks. Its stamp is the time, the level and the system. -/
structure Member where
  stamp : List UInt8
  extra : Option (List UInt8)
  name : Option (List UInt8)
  comment : Option (List UInt8)
  hasChecksum : Bool
  first : List UInt8
  later : List (List UInt8)
  stamp_length : stamp.length = 6
  extra_short : ∀ bytes, extra = some bytes → bytes.length < 65536
  texts : ∀ text, name = some text ∨ comment = some text → 0 ∉ text ∧ text.length ≤ maxText
  blocks_short : ∀ block ∈ first :: later, block.length ≤ 65535

def extraBytes : Option (List UInt8) → List UInt8
  | none => []
  | some bytes => numberBytes 2 bytes.length ++ bytes

def textBytes : Option (List UInt8) → List UInt8
  | none => []
  | some text => text ++ [0]

theorem skipExtra?_append {extra : Option (List UInt8)}
    (h : ∀ bytes, extra = some bytes → bytes.length < 65536) (rest : List UInt8) :
    skipExtra? extra.isSome (extraBytes extra ++ rest) = some rest := by
  cases extra with
  | none => rfl
  | some bytes =>
    have hLength := @littleEndian_number 2 _ (h bytes rfl)
    rw [extraBytes, skipExtra?, List.append_assoc, split?_append (length_numberBytes ..)]
    simp only [Option.isSome_some, Bool.not_true, Bool.false_eq_true, if_false,
      Option.bind_eq_bind, Option.bind_some, hLength, split?_append rfl]
    rfl

theorem idxOf?_append {front : List UInt8} (h : 0 ∉ front) (rest : List UInt8) :
    (front ++ 0 :: rest).idxOf? 0 = some front.length := by
  induction front with
  | nil => rfl
  | cons b front ih =>
    have hOther : (b == 0) = false :=
      beq_eq_false_iff_ne.mpr (List.ne_of_not_mem_cons h).symm
    rw [List.cons_append, List.idxOf?_cons, hOther, ih (List.not_mem_of_not_mem_cons h)]
    rfl

theorem skipText?_append {text : Option (List UInt8)}
    (h : ∀ bytes, text = some bytes → 0 ∉ bytes ∧ bytes.length ≤ maxText) (rest : List UInt8) :
    skipText? text.isSome (textBytes text ++ rest) = some rest := by
  cases text with
  | none => rfl
  | some bytes =>
    obtain ⟨hZero, hShort⟩ := h bytes rfl
    have hTaken : (bytes ++ 0 :: rest).take (maxText + 1) =
        bytes ++ 0 :: rest.take (maxText - bytes.length) := by
      have hLimit : maxText + 1 = bytes.length + (maxText - bytes.length + 1) := by omega
      rw [hLimit, List.take_length_add_append, List.take_succ_cons]
    have hDropped : (bytes ++ 0 :: rest).drop (bytes.length + 1) = rest := by
      rw [List.drop_length_add_append, List.drop_succ_cons, List.drop_zero]
    rw [textBytes, List.append_assoc, List.singleton_append, skipText?, hTaken,
      idxOf?_append hZero]
    simp only [Option.isSome_some, Bool.not_true, Bool.false_eq_true, if_false, hDropped]

namespace Member

variable (member : Member)

def content : List UInt8 := (member.first :: member.later).flatten

def flagByte : UInt8 :=
  (if member.hasChecksum then 2 else 0) + (if member.extra.isSome then 4 else 0) +
    (if member.name.isSome then 8 else 0) + (if member.comment.isSome then 16 else 0)

/-- The header up to its checksum. -/
def front : List UInt8 :=
  0x1F :: 0x8B :: 8 :: member.flagByte :: (member.stamp ++
    (extraBytes member.extra ++ (textBytes member.name ++ textBytes member.comment)))

def checksum : List UInt8 :=
  if member.hasChecksum then numberBytes 2 ((crc32 member.front).toNat % UInt16.size) else []

def data : List UInt8 := blockData Deflate.storedBytes member.first member.later

def trailer : List UInt8 :=
  numberBytes 4 (crc32 member.content).toNat ++
    numberBytes 4 (member.content.length % UInt32.size)

def bytes : List UInt8 :=
  member.front ++ (member.checksum ++ (member.data ++ member.trailer))

theorem flags_flagByte : flags? member.flagByte = some {
    checksum := member.hasChecksum
    extra := member.extra.isSome
    name := member.name.isSome
    comment := member.comment.isSome } := by
  unfold flagByte
  generalize member.hasChecksum = checksum
  generalize member.extra.isSome = extra
  generalize member.name.isSome = name
  generalize member.comment.isSome = comment
  revert checksum extra name comment
  decide

theorem skipChecksum?_append (rest : List UInt8) :
    skipChecksum? member.hasChecksum (member.front ++ (member.checksum ++ rest))
      (member.checksum ++ rest) = some rest := by
  have hHeader : (member.front ++ (member.checksum ++ rest)).take
      ((member.front ++ (member.checksum ++ rest)).length - (member.checksum ++ rest).length) =
        member.front := by
    rw [List.length_append, Nat.add_sub_cancel, List.take_left]
  have hSmall : (crc32 member.front).toNat % UInt16.size < 256 ^ 2 :=
    Nat.mod_lt _ (by decide)
  unfold skipChecksum?
  rw [hHeader, checksum]
  cases member.hasChecksum with
  | false => rfl
  | true =>
    simp only [Bool.not_true, Bool.false_eq_true, if_false, if_true, Option.bind_eq_bind,
      split?_append (length_numberBytes ..), Option.bind_some, littleEndian_number hSmall]

theorem skipHeader?_append (rest : List UInt8) :
    skipHeader? (member.front ++ (member.checksum ++ rest)) = some rest := by
  have hExtra := skipExtra?_append member.extra_short
  have hName := skipText?_append fun text h => member.texts text (.inl h)
  have hComment := skipText?_append fun text h => member.texts text (.inr h)
  have hFixed : member.front ++ (member.checksum ++ rest) =
      (0x1F :: 0x8B :: 8 :: member.flagByte :: member.stamp) ++
        (extraBytes member.extra ++ (textBytes member.name ++ (textBytes member.comment ++
          (member.checksum ++ rest)))) := by
    simp only [front, List.cons_append, List.append_assoc]
  have hLength : (0x1F :: 0x8B :: 8 :: member.flagByte :: member.stamp).length = 10 := by
    simp [member.stamp_length]
  have hSplit := split?_append hLength (extraBytes member.extra ++ (textBytes member.name ++
    (textBytes member.comment ++ (member.checksum ++ rest))))
  rw [← hFixed] at hSplit
  rw [skipHeader?, hSplit]
  simp only [Option.bind_eq_bind, Option.bind_some, member.flags_flagByte, hExtra, hName,
    hComment, member.skipChecksum?_append]

theorem trailerMatches_append (rest : List UInt8) :
    trailerMatches member.content (member.trailer ++ rest) = true := by
  have hChecksum := @littleEndian_number 4 _ (crc32 member.content).toNat_lt
  have hSize := @littleEndian_number 4 (member.content.length % UInt32.size)
    (Nat.mod_lt _ (by decide))
  rw [trailerMatches, trailer, List.append_assoc, split?_append (length_numberBytes ..)]
  simp only [split?_append (length_numberBytes ..), hChecksum, hSize, beq_self_eq_true,
    Bool.and_self]

/-- Nothing after a member is looked at. -/
theorem decode_append (rest : List UInt8) :
    decode (member.bytes ++ rest) = { bytes := member.content, intact := true } := by
  have hBytes : member.bytes ++ rest =
      member.front ++ (member.checksum ++ (member.data ++ (member.trailer ++ rest))) := by
    simp only [bytes, List.append_assoc]
  rw [decode, hBytes, member.skipHeader?_append]
  simp only
  -- Stored blocks are decoded from any position, so where the header ends does not matter.
  generalize (member.front ++ _).length - _ = position
  obtain ⟨after, hDecode, hRest, hOut⟩ :=
    Deflate.decode_stored member.blocks_short position (member.trailer ++ rest)
  have hData : Deflate.decode position (member.data ++ (member.trailer ++ rest)) =
      (.ok (), after) := hDecode
  have hContent : after.out.toList = member.content := hOut
  simp only [hData, hRest, hContent, member.trailerMatches_append]

def ofContent (content : List UInt8) : Member where
  stamp := [0, 0, 0, 0, 0, 255]
  extra := none
  name := none
  comment := none
  hasChecksum := false
  first := []
  later := bytewise content
  stamp_length := rfl
  extra_short := nofun
  texts := by
    rintro text (hText | hText) <;> cases hText
  blocks_short _ hMem := Nat.le_trans (length_bytewise hMem) (by decide)

@[simp] theorem content_ofContent (content : List UInt8) : (ofContent content).content = content :=
  flatten_bytewise content

end Member

end Gzip

end ValidityTables.Compressed
