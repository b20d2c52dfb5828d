import ValidityTables.Text.Utf8

/-! # Decoding is the inverse of encoding

The bytes that `decode?` accepts are the encodings of texts, and it gives back the characters that
were encoded. A character has one to four bytes, and each case has its own ranges. Where broken
starts are replaced, a line feed is still a line feed, whatever stands before it.
-/

namespace ValidityTables.Text.Utf8

theorem ofNat_eq {b : UInt8} {n : Nat} (h : n = b.toNat) : UInt8.ofNat n = b := by
  subst h
  exact UInt8.ofNat_toNat

theorem toNat_ofNat {n : Nat} (h : n.isValidChar) : (Char.ofNat n).val.toNat = n := by
  unfold Char.ofNat
  rw [dif_pos h]
  rfl

theorem tail?_eq_some {b : UInt8} {x : Nat} : tail? b = some x ↔ b.toNat = 0x80 + x ∧ x < 0x40 := by
  unfold tail?
  split <;> simp_all <;> omega

/-- Only in the ranges of a second byte it matters which byte comes first. -/
theorem second?_eq_some {first : Nat} {b : UInt8} {x : Nat} :
    second? first b = some x ↔ b.toNat = 0x80 + x ∧ x < 0x40 ∧
      (first = 0xE0 → 0x20 ≤ x) ∧ (first = 0xED → x < 0x20) ∧ (first = 0xF0 → 0x10 ≤ x) ∧
      (first = 0xF4 → x < 0x10) := by
  have hRange : (secondRange first).1 ≤ b.toNat ∧ b.toNat ≤ (secondRange first).2 ↔
      0x80 ≤ b.toNat ∧ b.toNat ≤ 0xBF ∧ (first = 0xE0 → 0xA0 ≤ b.toNat) ∧
        (first = 0xED → b.toNat ≤ 0x9F) ∧ (first = 0xF0 → 0x90 ≤ b.toNat) ∧
        (first = 0xF4 → b.toNat ≤ 0x8F) := by
    unfold secondRange
    split
    · omega
    · split
      · omega
      · split
        · omega
        · split <;> omega
  simp only [second?, Bool.and_eq_true, decide_eq_true_eq, hRange, Option.ite_none_right_eq_some,
    Option.some.injEq]
  omega

theorem head_bind {α β : Type} {f : α → Option β} {list : List α} {y : β}
    (h : list.head?.bind f = some y) : ∃ x rest, list = x :: rest ∧ f x = some y := by
  cases list with
  | nil => cases h
  | cons x rest => exact ⟨x, rest, rfl, h⟩

/-- What is read as a character begins with the encoding of this character. -/
def Encodes (b : UInt8) (rest : List UInt8) (c : Char) (n : Nat) : Prop :=
  ∃ tail after, rest = tail ++ after ∧ n = tail.length + 1 ∧ String.utf8EncodeChar c = b :: tail

theorem startTwo_reads {b : UInt8} {rest : List UInt8} {c : Char} {n : Nat}
    (hFirst : 0xC2 ≤ b.toNat ∧ b.toNat ≤ 0xDF) (h : startTwo b.toNat rest = .char c n) :
    Encodes b rest c n := by
  unfold startTwo at h
  split at h
  · cases h
  · rename_i x hTail
    cases h
    obtain ⟨second, after, rfl, hSecond⟩ := head_bind hTail
    obtain ⟨hByte, hRange⟩ := tail?_eq_some.mp hSecond
    refine ⟨[second], after, rfl, rfl, ?_⟩
    have hPoint : (Char.ofNat ((b.toNat - 0xC0) * 0x40 + x)).val.toNat =
        (b.toNat - 0xC0) * 0x40 + x := toNat_ofNat (.inl (by omega))
    simp only [String.utf8EncodeChar, hPoint]
    rw [if_neg (by omega), if_pos (by omega), ofNat_eq (b := b) (by omega),
      ofNat_eq (b := second) (by omega)]

theorem startThree_reads {b : UInt8} {rest : List UInt8} {c : Char} {n : Nat}
    (hFirst : 0xE0 ≤ b.toNat ∧ b.toNat ≤ 0xEF) (h : startThree b.toNat rest = .char c n) :
    Encodes b rest c n := by
  unfold startThree at h
  split at h
  · cases h
  · rename_i x hSecondByte
    split at h
    · cases h
    · rename_i y hThirdByte
      cases h
      obtain ⟨second, rest, rfl, hSecond⟩ := head_bind hSecondByte
      obtain ⟨third, after, rfl, hThird⟩ := head_bind hThirdByte
      obtain ⟨hByte, hRange, hLong, hSurrogate, -, -⟩ := second?_eq_some.mp hSecond
      obtain ⟨hLast, hLastRange⟩ := tail?_eq_some.mp hThird
      refine ⟨[second, third], after, rfl, rfl, ?_⟩
      have hPoint : (Char.ofNat ((b.toNat - 0xE0) * 0x1000 + x * 0x40 + y)).val.toNat =
          (b.toNat - 0xE0) * 0x1000 + x * 0x40 + y := by
        refine toNat_ofNat ?_
        unfold Nat.isValidChar
        omega
      simp only [String.utf8EncodeChar, hPoint]
      rw [if_neg (by omega), if_neg (by omega), if_pos (by omega), ofNat_eq (b := b) (by omega),
        ofNat_eq (b := second) (by omega), ofNat_eq (b := third) (by omega)]

theorem startFour_reads {b : UInt8} {rest : List UInt8} {c : Char} {n : Nat}
    (hFirst : 0xF0 ≤ b.toNat ∧ b.toNat ≤ 0xF4) (h : startFour b.toNat rest = .char c n) :
    Encodes b rest c n := by
  unfold startFour at h
  split at h
  · cases h
  · rename_i x hSecondByte
    split at h
    · cases h
    · rename_i y hThirdByte
      split at h
      · cases h
      · rename_i z hFourthByte
        cases h
        obtain ⟨second, rest, rfl, hSecond⟩ := head_bind hSecondByte
        obtain ⟨third, rest, rfl, hThird⟩ := head_bind hThirdByte
        obtain ⟨fourth, after, rfl, hFourth⟩ := head_bind hFourthByte
        obtain ⟨hByte, hRange, -, -, hLong, hPlane⟩ := second?_eq_some.mp hSecond
        obtain ⟨hNext, hNextRange⟩ := tail?_eq_some.mp hThird
        obtain ⟨hLast, hLastRange⟩ := tail?_eq_some.mp hFourth
        refine ⟨[second, third, fourth], after, rfl, rfl, ?_⟩
        have hPoint :
            (Char.ofNat ((b.toNat - 0xF0) * 0x40000 + x * 0x1000 + y * 0x40 + z)).val.toNat =
            (b.toNat - 0xF0) * 0x40000 + x * 0x1000 + y * 0x40 + z := by
          refine toNat_ofNat ?_
          unfold Nat.isValidChar
          omega
        simp only [String.utf8EncodeChar, hPoint]
        rw [if_neg (by omega), if_neg (by omega), if_neg (by omega), ofNat_eq (b := b) (by omega),
          ofNat_eq (b := second) (by omega), ofNat_eq (b := third) (by omega),
          ofNat_eq (b := fourth) (by omega)]

theorem start_reads {b : UInt8} {rest : List UInt8} {c : Char} {n : Nat}
    (h : start b rest = .char c n) : Encodes b rest c n := by
  simp only [start] at h
  split at h
  · rename_i hAscii
    cases h
    have hPoint : (Char.ofNat b.toNat).val.toNat = b.toNat := toNat_ofNat (.inl (by omega))
    refine ⟨[], rest, rfl, rfl, ?_⟩
    simp only [String.utf8EncodeChar, hPoint]
    rw [if_pos (by omega), UInt8.ofNat_toNat]
  · split at h
    · rename_i hTwo
      exact startTwo_reads (by simpa using hTwo) h
    · split at h
      · rename_i hThree
        exact startThree_reads (by simpa using hThree) h
      · split at h
        · rename_i hFour
          exact startFour_reads (by simpa using hFour) h
        · cases h

theorem toNat_byte {n : Nat} (h : n < 0x100) : (UInt8.ofNat n).toNat = n := by
  simpa using Nat.mod_eq_of_lt h

theorem tail?_byte {x : Nat} (h : x < 0x40) : tail? (UInt8.ofNat (x + 0x80)) = some x := by
  rw [tail?_eq_some, toNat_byte (by omega)]
  omega

theorem start_one {n : Nat} (h : n ≤ 0x7F) (rest : List UInt8) :
    start (UInt8.ofNat n) rest = .char (Char.ofNat n) 1 := by
  simp only [start, toNat_byte (show n < 0x100 by omega)]
  rw [if_pos (by omega)]

theorem start_two {a x : Nat} (hFirst : 2 ≤ a ∧ a < 0x20) (hTail : x < 0x40) (rest : List UInt8) :
    start (UInt8.ofNat (a + 0xC0)) (UInt8.ofNat (x + 0x80) :: rest) =
      .char (Char.ofNat (a * 0x40 + x)) 2 := by
  simp only [start, toNat_byte (show a + 0xC0 < 0x100 by omega)]
  rw [if_neg (by omega), if_pos (by simp; omega)]
  simp only [startTwo, List.head?_cons, Option.bind_some, tail?_byte hTail, Nat.add_sub_cancel]

theorem start_three {a x y : Nat} (hFirst : a < 0x10) (hSecond : x < 0x40)
    (hLong : a = 0 → 0x20 ≤ x) (hSurrogate : a = 0xD → x < 0x20) (hTail : y < 0x40)
    (rest : List UInt8) :
    start (UInt8.ofNat (a + 0xE0)) (UInt8.ofNat (x + 0x80) :: UInt8.ofNat (y + 0x80) :: rest) =
      .char (Char.ofNat (a * 0x1000 + x * 0x40 + y)) 3 := by
  have hByte : second? (a + 0xE0) (UInt8.ofNat (x + 0x80)) = some x := by
    rw [second?_eq_some, toNat_byte (by omega)]
    omega
  simp only [start, toNat_byte (show a + 0xE0 < 0x100 by omega)]
  rw [if_neg (by omega), if_neg (by simp), if_pos (by simp; omega)]
  simp only [startThree, List.head?_cons, List.drop_succ_cons, List.drop_zero, Option.bind_some,
    hByte, tail?_byte hTail, Nat.add_sub_cancel]

theorem start_four {a x y z : Nat} (hFirst : a < 5) (hSecond : x < 0x40)
    (hLong : a = 0 → 0x10 ≤ x) (hPlane : a = 4 → x < 0x10) (hTail : y < 0x40) (hLast : z < 0x40)
    (rest : List UInt8) :
    start (UInt8.ofNat (a + 0xF0)) (UInt8.ofNat (x + 0x80) :: UInt8.ofNat (y + 0x80) ::
        UInt8.ofNat (z + 0x80) :: rest) =
      .char (Char.ofNat (a * 0x40000 + x * 0x1000 + y * 0x40 + z)) 4 := by
  have hByte : second? (a + 0xF0) (UInt8.ofNat (x + 0x80)) = some x := by
    rw [second?_eq_some, toNat_byte (by omega)]
    omega
  simp only [start, toNat_byte (show a + 0xF0 < 0x100 by omega)]
  rw [if_neg (by omega), if_neg (by simp), if_neg (by simp), if_pos (by simp; omega)]
  simp only [startFour, List.head?_cons, List.drop_succ_cons, List.drop_zero, Option.bind_some,
    hByte, tail?_byte hTail, tail?_byte hLast, Nat.add_sub_cancel]

/-- An encoded character is read back, whatever follows it. -/
theorem start_encode (c : Char) (rest : List UInt8) : ∃ b tail,
    String.utf8EncodeChar c = b :: tail ∧ start b (tail ++ rest) = .char c (tail.length + 1) := by
  have hValid : c.val.toNat < 0xD800 ∨ 0xDFFF < c.val.toNat ∧ c.val.toNat < 0x110000 := c.valid
  have hPoint {n : Nat} (h : n = c.val.toNat) : Char.ofNat n = c := by
    rw [h]
    exact Char.ofNat_toNat c
  simp only [String.utf8EncodeChar]
  by_cases hOne : c.val.toNat ≤ 0x7F
  · refine ⟨_, [], if_pos hOne, ?_⟩
    rw [start_one hOne, hPoint rfl]
    rfl
  by_cases hTwo : c.val.toNat ≤ 0x7FF
  · rw [if_neg hOne, if_pos hTwo]
    refine ⟨_, _, rfl, ?_⟩
    rw [List.cons_append, start_two (by omega) (by omega), hPoint (by omega)]
    rfl
  rw [if_neg hOne, if_neg hTwo]
  by_cases hThree : c.val.toNat ≤ 0xFFFF
  · rw [if_pos hThree]
    refine ⟨_, _, rfl, ?_⟩
    rw [List.cons_append, List.cons_append, start_three (by omega) (by omega) (by omega) (by omega)
      (by omega), hPoint (by omega)]
    rfl
  · rw [if_neg hThree]
    refine ⟨_, _, rfl, ?_⟩
    rw [List.cons_append, List.cons_append, List.cons_append, start_four (by omega) (by omega)
      (by omega) (by omega) (by omega) (by omega), hPoint (by omega)]
    rfl

theorem decodeFrom_skip {broken : Option Char} {decoded : List Char} (tail rest : List UInt8) :
    decodeFrom broken decoded tail.length (tail ++ rest) = decodeFrom broken decoded 0 rest := by
  induction tail with
  | nil => rfl
  | cons b tail ih => exact ih

theorem decodeFrom_encoded (decoded text : List Char) :
    decodeFrom none decoded 0 (text.flatMap String.utf8EncodeChar) =
      some (decoded.reverse ++ text) := by
  induction text generalizing decoded with
  | nil => simp [decodeFrom]
  | cons c text ih =>
    obtain ⟨b, tail, hEncode, hStart⟩ := start_encode c (text.flatMap String.utf8EncodeChar)
    rw [List.flatMap_cons, hEncode, List.cons_append, decodeFrom]
    simp only [hStart, Nat.add_sub_cancel]
    rw [decodeFrom_skip, ih]
    simp

theorem decodeFrom_eq_some {decoded text : List Char} {bytes : List UInt8}
    (h : decodeFrom none decoded 0 bytes = some text) :
    ∃ later, text = decoded.reverse ++ later ∧ later.flatMap String.utf8EncodeChar = bytes := by
  cases bytes with
  | nil =>
    cases h
    exact ⟨[], by simp, rfl⟩
  | cons b rest =>
    rw [decodeFrom] at h
    cases hStart : start b rest with
    | broken n =>
      simp only [hStart] at h
      cases h
    | char c n =>
      -- The other bytes of a character are passed over, and what follows them is shorter.
      obtain ⟨tail, after, rfl, rfl, hEncode⟩ := start_reads hStart
      simp only [hStart, Nat.add_sub_cancel] at h
      rw [decodeFrom_skip] at h
      have hShorter : after.length < (b :: (tail ++ after)).length := by
        simp only [List.length_cons, List.length_append]
        omega
      obtain ⟨later, rfl, rfl⟩ := decodeFrom_eq_some h
      exact ⟨c :: later, by simp, by rw [List.flatMap_cons, hEncode]; rfl⟩
termination_by bytes.length

theorem decode?_eq_some {bytes : List UInt8} {text : List Char} :
    decode? bytes = some text ↔ text.flatMap String.utf8EncodeChar = bytes := by
  constructor
  · intro h
    obtain ⟨later, rfl, hBytes⟩ := decodeFrom_eq_some h
    exact hBytes
  · rintro rfl
    exact decodeFrom_encoded [] text

/-- The bytes that can be decoded are those of the texts. -/
theorem decode?_isSome {bytes : List UInt8} :
    (decode? bytes).isSome ↔ bytes.toByteArray.IsValidUTF8 := by
  rw [Option.isSome_iff_exists]
  constructor
  · rintro ⟨text, hText⟩
    exact ⟨text, congrArg List.toByteArray (decode?_eq_some.mp hText).symm⟩
  · rintro ⟨text, hText⟩
    exact ⟨text, decode?_eq_some.mpr (List.toByteArray_inj.mp hText).symm⟩

section Encoded

theorem toList_loop (bytes : ByteArray) (i : Nat) (read : List UInt8) :
    ByteArray.toList.loop bytes i read = read.reverse ++ bytes.data.toList.drop i := by
  fun_induction ByteArray.toList.loop bytes i read with
  | case1 i read hRoom ih =>
    have hIndex : i < bytes.data.toList.length := by simpa using hRoom
    rw [ih, List.drop_eq_getElem_cons hIndex]
    simp [ByteArray.get!, hRoom]
  | case2 i read hEnd =>
    rw [List.drop_eq_nil_of_le (by simpa using Nat.le_of_not_lt hEnd), List.append_nil]

theorem encode_eq (s : String) : encode s = s.toList.flatMap String.utf8EncodeChar := by
  rw [encode, ByteArray.toList, toList_loop, List.drop_zero, List.reverse_nil, List.nil_append,
    String.toUTF8_eq_toByteArray, ← String.utf8Encode_toList]
  exact List.toList_data_toByteArray

/-- No character begins within another one. -/
theorem nil_of_encoded_suffix {c d : Char} {front : List UInt8}
    (h : String.utf8EncodeChar d = front ++ String.utf8EncodeChar c) : front = [] := by
  obtain ⟨b, tail, hEncode, -⟩ := start_encode c []
  have hIndex : front.length < (String.utf8EncodeChar d).length := by
    rw [h, hEncode, List.length_append, List.length_cons]
    omega
  have hFirst : 0 < (String.utf8EncodeChar c).length := by
    rw [hEncode]
    exact Nat.succ_pos _
  have hSame : (String.utf8EncodeChar d)[front.length] = (String.utf8EncodeChar c)[0] := by
    simp [h]
  have hBegins : (String.utf8EncodeChar d)[front.length].IsUTF8FirstByte := by
    rw [hSame]
    exact UInt8.isUTF8FirstByte_getElem_utf8EncodeChar.mpr rfl
  exact List.length_eq_zero_iff.mp (UInt8.isUTF8FirstByte_getElem_utf8EncodeChar.mp hBegins)

theorem encodeChar_injective {c d : Char} (h : String.utf8EncodeChar c = String.utf8EncodeChar d) :
    c = d := by
  have hFirst : decode? (String.utf8EncodeChar c) = some [c] :=
    decode?_eq_some.mpr (by simp)
  have hSecond : decode? (String.utf8EncodeChar c) = some [d] :=
    decode?_eq_some.mpr (by simp [h])
  rw [hFirst] at hSecond
  exact (List.cons.inj (Option.some.inj hSecond)).1

/-- Bytes that end with a character are a text exactly if the bytes before it are. -/
theorem encoded_snoc_iff {bytes : List UInt8} {c : Char} {text : List Char} :
    text.flatMap String.utf8EncodeChar = bytes ++ String.utf8EncodeChar c ↔
      ∃ front, front.flatMap String.utf8EncodeChar = bytes ∧ front ++ [c] = text := by
  constructor
  · intro h
    obtain rfl | ⟨front, d, rfl⟩ := List.eq_nil_or_concat text
    · obtain ⟨b, tail, hEncode, -⟩ := start_encode c []
      simp [hEncode] at h
    · rw [List.concat_eq_append, List.flatMap_append, List.flatMap_singleton] at h
      rw [List.concat_eq_append]
      -- The two last characters end at the same byte, and neither begins within the other.
      obtain ⟨gap, hBytes, hLast⟩ | ⟨gap, hBytes, hLast⟩ := List.append_eq_append_iff.mp h
      · obtain rfl := nil_of_encoded_suffix hLast
        obtain rfl := encodeChar_injective hLast
        exact ⟨front, by simp [hBytes], rfl⟩
      · obtain rfl := nil_of_encoded_suffix hLast
        obtain rfl := encodeChar_injective hLast
        exact ⟨front, by simp [hBytes], rfl⟩
  · rintro ⟨front, rfl, rfl⟩
    rw [List.flatMap_append, List.flatMap_singleton]

/-- What follows some bytes as a text is read as this text, or nothing is read. -/
theorem decode?_append (bytes : List UInt8) (text : List Char) :
    decode? (bytes ++ text.flatMap String.utf8EncodeChar) = (decode? bytes).map (· ++ text) := by
  induction text generalizing bytes with
  | nil => simp
  | cons c text ih =>
    have hFirst : decode? (bytes ++ String.utf8EncodeChar c) = (decode? bytes).map (· ++ [c]) := by
      apply Option.ext
      intro read
      rw [Option.map_eq_some_iff, decode?_eq_some, encoded_snoc_iff]
      simp only [decode?_eq_some]
    rw [List.flatMap_cons, ← List.append_assoc, ih, hFirst, Option.map_map]
    congr 1
    funext read
    simp

end Encoded

section Replaced

theorem second?_feed (first : Nat) : second? first 10 = none := by
  rw [Option.eq_none_iff_forall_ne_some]
  intro x hByte
  have hValue : (10 : UInt8).toNat = 10 := rfl
  have hRange := (second?_eq_some.mp hByte).1
  omega

/-- A line feed belongs to no character and to no broken start that begins before it. -/
theorem start_feed (b : UInt8) (front rest : List UInt8) :
    start b (front ++ 10 :: rest) = start b front := by
  have hHead {f : UInt8 → Option Nat} (hFeed : f 10 = none) (bytes : List UInt8) :
      (bytes ++ 10 :: rest).head?.bind f = bytes.head?.bind f := by
    cases bytes with
    | nil => exact hFeed
    | cons => rfl
  have hTail : tail? 10 = none := rfl
  have hSecond := second?_feed b.toNat
  have hTwo : startTwo b.toNat (front ++ 10 :: rest) = startTwo b.toNat front := by
    rw [startTwo, startTwo, hHead hTail]
  have hThree : startThree b.toNat (front ++ 10 :: rest) = startThree b.toNat front := by
    cases front with
    | nil => simp [startThree, hSecond]
    | cons x front =>
      simp only [startThree, List.cons_append, List.head?_cons, List.drop_succ_cons,
        List.drop_zero, hHead hTail]
  have hFour : startFour b.toNat (front ++ 10 :: rest) = startFour b.toNat front := by
    cases front with
    | nil => simp [startFour, hSecond]
    | cons x front =>
      cases front with
      | nil => simp [startFour, hTail]
      | cons y front =>
        simp only [startFour, List.cons_append, List.head?_cons, List.drop_succ_cons,
          List.drop_zero, hHead hTail]
  simp only [start, hTwo, hThree, hFour]

theorem start_broken_length {b : UInt8} {rest : List UInt8} {n : Nat}
    (h : start b rest = .broken n) : n ≤ rest.length + 1 := by
  have hLength {list : List UInt8} {f : UInt8 → Option Nat} {x : Nat}
      (hByte : list.head?.bind f = some x) : 0 < list.length := by
    obtain ⟨_, _, rfl, -⟩ := head_bind hByte
    exact Nat.succ_pos _
  simp only [start, startTwo, startThree, startFour] at h
  grind

theorem start_length {b : UInt8} {rest : List UInt8} {c : Char} {n : Nat}
    (h : start b rest = .char c n) : n ≤ rest.length + 1 := by
  obtain ⟨tail, after, rfl, rfl, -⟩ := start_reads h
  rw [List.length_append]
  omega

/-- What was decoded before only stands before the rest. -/
theorem decodeFrom_decoded (broken : Option Char) (decoded : List Char) (skip : Nat)
    (bytes : List UInt8) : decodeFrom broken decoded skip bytes =
      (decodeFrom broken [] skip bytes).map (decoded.reverse ++ ·) := by
  induction bytes generalizing decoded skip with
  | nil => simp [decodeFrom]
  | cons b rest ih =>
    have hNext (c : Char) (skip : Nat) : decodeFrom broken (c :: decoded) skip rest =
        (decodeFrom broken [c] skip rest).map (decoded.reverse ++ ·) := by
      rw [ih (c :: decoded), ih [c], Option.map_map]
      congr 1
      funext later
      simp
    cases skip with
    | succ skip => exact ih decoded skip
    | zero =>
      simp only [decodeFrom]
      split
      · exact hNext _ _
      · split
        · rfl
        · exact hNext _ _

theorem decodeFrom_feed {broken : Char} {decoded text : List Char} {skip : Nat}
    {front : List UInt8} (rest : List UInt8) (hSkip : skip ≤ front.length)
    (h : decodeFrom (some broken) decoded skip front = some text) :
    decodeFrom (some broken) decoded skip (front ++ 10 :: rest) =
      decodeFrom (some broken) ('\n' :: text.reverse) 0 rest := by
  induction front generalizing decoded skip with
  | nil =>
    obtain rfl := Nat.le_zero.mp hSkip
    obtain rfl := Option.some.inj h
    rw [List.reverse_reverse]
    rfl
  | cons b front ih =>
    cases skip with
    | succ skip => exact ih (Nat.le_of_succ_le_succ hSkip) h
    | zero =>
      rw [decodeFrom] at h
      rw [List.cons_append, decodeFrom, start_feed]
      cases hStart : start b front with
      | char c n =>
        rw [hStart] at h
        have hLength := start_length hStart
        exact ih (by omega) h
      | broken n =>
        rw [hStart] at h
        have hLength := start_broken_length hStart
        exact ih (by omega) h

theorem decodeFrom_isSome (broken : Char) (decoded : List Char) (skip : Nat) (bytes : List UInt8) :
    (decodeFrom (some broken) decoded skip bytes).isSome := by
  induction bytes generalizing decoded skip with
  | nil => rfl
  | cons b rest ih =>
    cases skip with
    | succ skip => exact ih decoded skip
    | zero =>
      simp only [decodeFrom]
      split <;> exact ih _ _

theorem decodeFrom_replacing (decoded : List Char) (bytes : List UInt8) :
    decodeFrom (some (Char.ofNat 0xFFFD)) decoded 0 bytes =
      some (decoded.reverse ++ decodeReplacing bytes) := by
  obtain ⟨text, hText⟩ := Option.isSome_iff_exists.mp
    (decodeFrom_isSome (Char.ofNat 0xFFFD) [] 0 bytes)
  rw [decodeFrom_decoded, decodeReplacing, hText]
  rfl

/-- Bytes before a line feed and after it are decoded apart. -/
theorem decodeReplacing_feed (front rest : List UInt8) :
    decodeReplacing (front ++ 10 :: rest) =
      decodeReplacing front ++ '\n' :: decodeReplacing rest := by
  have hWhole := decodeFrom_feed rest (Nat.zero_le front.length) (decodeFrom_replacing [] front)
  rw [decodeFrom_replacing, decodeFrom_replacing] at hWhole
  simpa using Option.some.inj hWhole

theorem decodeReplacing_ne_nil {bytes : List UInt8} (h : bytes ≠ []) :
    decodeReplacing bytes ≠ [] := by
  obtain ⟨b, rest, rfl⟩ := List.exists_cons_of_ne_nil h
  have hSome (c : Char) (skip : Nat) :
      (decodeFrom (some (Char.ofNat 0xFFFD)) [c] skip rest).getD [] ≠ [] := by
    obtain ⟨text, hText⟩ := Option.isSome_iff_exists.mp
      (decodeFrom_isSome (Char.ofNat 0xFFFD) [] skip rest)
    rw [decodeFrom_decoded, hText]
    simp
  simp only [decodeReplacing, decodeFrom]
  split <;> exact hSome _ _

end Replaced

end ValidityTables.Text.Utf8
