import ValidityTables.Compressed.Decoded
import Mathlib.Algebra.GroupWithZero.Nat

/-! # Decoders that succeed

What a decoder needs to get through its input, step by step, and how numbers stand in it.
-/

namespace ValidityTables.Compressed

variable {σ α β : Type}

/-- A decoder succeeds with a value. -/
def Delivers (decoder : ExceptT Flaw (StateM σ) α) (before : σ) (value : α) (after : σ) : Prop :=
  decoder.run before = (.ok value, after)

namespace Delivers

variable {before middle after : σ} {value : α}

theorem pure (value : α) (state : σ) :
    Delivers (Pure.pure value : ExceptT Flaw (StateM σ) α) state value state := rfl

theorem bind {decoder : ExceptT Flaw (StateM σ) α} {next : α → ExceptT Flaw (StateM σ) β}
    {last : β} (h : Delivers decoder before value middle)
    (hNext : Delivers (next value) middle last after) :
    Delivers (decoder >>= next) before last after := by
  have hRun : (decoder >>= next).run before =
      match decoder.run before with
      | (.ok value, middle) => (next value).run middle
      | (.error flaw, middle) => (.error flaw, middle) := by
    rw [ExceptT.run_bind]
    rcases hDecoder : decoder.run before with ⟨_ | _, _⟩
    · simp only [Bind.bind, StateT.bind, hDecoder]
      rfl
    · simp only [Bind.bind, StateT.bind, hDecoder]
  rw [Delivers, hRun, h]
  exact hNext

theorem state (state : σ) :
    Delivers (get : ExceptT Flaw (StateM σ) σ) state state state := rfl

theorem change (change : σ → σ) (state : σ) :
    Delivers (modify change : ExceptT Flaw (StateM σ) PUnit) state () (change state) := rfl

end Delivers

/-- The bytes of a number, the least significant first. -/
def numberBytes : Nat → Nat → List UInt8
  | 0, _ => []
  | k + 1, n => UInt8.ofNat n :: numberBytes k (n / 256)

@[simp] theorem length_numberBytes (k n : Nat) : (numberBytes k n).length = k := by
  induction k generalizing n with
  | zero => rfl
  | succ k ih => rw [numberBytes, List.length_cons, ih]

theorem littleEndian_numberBytes (k n : Nat) : littleEndian (numberBytes k n) = n % 256 ^ k := by
  induction k generalizing n with
  | zero => rw [Nat.pow_zero, Nat.mod_one]; rfl
  | succ k ih =>
    have hByte : (UInt8.ofNat n).toNat = n % 256 := UInt8.toNat_ofNat'
    rw [numberBytes, littleEndian, ih, hByte, Nat.pow_succ', Nat.mod_mul]

theorem littleEndian_number {k n : Nat} (h : n < 256 ^ k) :
    littleEndian (numberBytes k n) = n := by
  rw [littleEndian_numberBytes, Nat.mod_eq_of_lt h]

theorem split?_append {n : Nat} {front : List UInt8} (h : front.length = n) (rest : List UInt8) :
    split? n (front ++ rest) = some (front, rest) := by
  rw [split?, ← h, List.take_left, List.drop_left]
  simp only [if_true]

/-- Blocks one after the other, of which the last one is marked. -/
def blockData (block : Bool → List UInt8 → List UInt8) : List UInt8 → List (List UInt8) → List UInt8
  | content, [] => block true content
  | content, next :: later => block false content ++ blockData block next later

theorem length_blockData {block : Bool → List UInt8 → List UInt8}
    (hSome : ∀ isLast content, 0 < (block isLast content).length) (content : List UInt8)
    (later : List (List UInt8)) : later.length ≤ (blockData block content later).length := by
  induction later generalizing content with
  | nil => exact Nat.zero_le _
  | cons next later ih =>
    have hRest := ih next
    have hFirst := hSome false content
    rw [blockData, List.length_append, List.length_cons]
    omega

/-- A content as blocks of one byte each. -/
def bytewise (content : List UInt8) : List (List UInt8) := content.map fun b => [b]

@[simp] theorem flatten_bytewise (content : List UInt8) : (bytewise content).flatten = content := by
  induction content with
  | nil => rfl
  | cons b content ih => exact congrArg (b :: ·) ih

theorem length_bytewise {content block : List UInt8} (h : block ∈ [] :: bytewise content) :
    block.length ≤ 1 := by
  obtain rfl | hMem := List.mem_cons.mp h
  · exact Nat.zero_le _
  · obtain ⟨b, -, rfl⟩ := List.mem_map.mp hMem
    exact Nat.le_refl _

end ValidityTables.Compressed
