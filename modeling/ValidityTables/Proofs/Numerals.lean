import ValidityTables.Proofs.Words
import ValidityTables.Text.Numeral
import Mathlib.Algebra.Group.Int.Defs

/-! # The numbers that numerals stand for

What a text has to look like to be the numeral of a number, without regard to how it is read. A
bounded reader gives a number if and only if the text is a numeral of it and the number is within
the bounds: no prefix of a numeral is greater than the number.
-/

namespace ValidityTables.Text

/-- One or more ASCII digits, and their value in base ten. -/
structure IsNumeral (cs : List Char) (n : Nat) : Prop where
  nonempty : cs ≠ []
  digits : ∀ c ∈ cs, isAsciiDigit c = true
  value : Nat.ofDigitChars 10 cs 0 = n

/-- A numeral with an optional sign. -/
inductive IsInteger : List Char → Int → Prop
  | plain {cs : List Char} {n : Nat} : IsNumeral cs n → IsInteger cs n
  | plus {cs : List Char} {n : Nat} : IsNumeral cs n → IsInteger ('+' :: cs) n
  | minus {cs : List Char} {n : Nat} : IsNumeral cs n → IsInteger ('-' :: cs) (-n)

theorem isAsciiDigit_of_isDigit {c : Char} (h : c.isDigit = true) : isAsciiDigit c = true := by
  rw [Char.isDigit, Bool.and_eq_true, decide_eq_true_eq, decide_eq_true_eq] at h
  rw [isAsciiDigit, Bool.and_eq_true, decide_eq_true_eq, decide_eq_true_eq]
  exact h

theorem isNumeral_repr (n : Nat) : IsNumeral n.repr.toList n where
  nonempty := by
    rw [Nat.toList_repr]
    exact Nat.toDigits_ne_nil
  digits c hMem := by
    rw [Nat.toList_repr] at hMem
    exact isAsciiDigit_of_isDigit (Nat.isDigit_of_mem_toDigits (by decide) (by decide) hMem)
  value := by rw [Nat.toList_repr, Nat.ofDigitChars_ten_toDigits]

theorem isNumeral_toString {i : Int} (h : 0 ≤ i) : IsNumeral (toString i).toList i.toNat := by
  rw [Int.toString_eq_repr, Int.repr_eq_if, if_pos h]
  exact isNumeral_repr i.toNat

theorem isInteger_toString (i : Int) : IsInteger (toString i).toList i := by
  by_cases hSign : 0 ≤ i
  · have h := IsInteger.plain (isNumeral_toString hSign)
    rwa [Int.toNat_of_nonneg hSign] at h
  · have h := IsInteger.minus (isNumeral_repr (-i).toNat)
    rw [Int.toNat_of_nonneg (by omega), Int.neg_neg] at h
    rw [Int.toString_eq_repr, Int.repr_eq_if, if_neg hSign]
    simpa using h

theorem IsNumeral.unique {cs : List Char} {n m : Nat} (h : IsNumeral cs n)
    (hOther : IsNumeral cs m) : n = m := h.value.symm.trans hOther.value

/-- A sign is no digit. -/
theorem IsNumeral.head {c : Char} {cs : List Char} {n : Nat} (h : IsNumeral (c :: cs) n) :
    c ≠ '+' ∧ c ≠ '-' := by
  have hDigit := h.digits c List.mem_cons_self
  constructor <;> rintro rfl <;> cases hDigit

theorem IsInteger.chars {cs : List Char} {i : Int} (h : IsInteger cs i) :
    cs ≠ [] ∧ ∀ c ∈ cs, isAsciiDigit c = true ∨ c = '+' ∨ c = '-' := by
  cases h with
  | plain h => exact ⟨h.nonempty, fun c hMem => .inl (h.digits c hMem)⟩
  | plus h =>
    refine ⟨by simp, fun c hMem => ?_⟩
    obtain rfl | hRest := List.mem_cons.mp hMem
    · exact .inr (.inl rfl)
    · exact .inl (h.digits c hRest)
  | minus h =>
    refine ⟨by simp, fun c hMem => ?_⟩
    obtain rfl | hRest := List.mem_cons.mp hMem
    · exact .inr (.inr rfl)
    · exact .inl (h.digits c hRest)

theorem IsInteger.unique {cs : List Char} {i j : Int} (h : IsInteger cs i)
    (hOther : IsInteger cs j) : i = j := by
  cases h with
  | plain hNumeral =>
    cases hOther with
    | plain hSame => rw [hNumeral.unique hSame]
    | plus => exact absurd rfl hNumeral.head.1
    | minus => exact absurd rfl hNumeral.head.2
  | plus hNumeral =>
    cases hOther with
    | plain hSame => exact absurd rfl hSame.head.1
    | plus hSame => rw [hNumeral.unique hSame]
  | minus hNumeral =>
    cases hOther with
    | plain hSame => exact absurd rfl hSame.head.2
    | minus hSame => rw [hNumeral.unique hSame]

theorem IsInteger.plain_chars {cs : List Char} {i : Int} (h : IsInteger cs i) :
    ∀ c ∈ cs, (c ≠ ',' ∧ c ≠ '\'') ∧ isBlank c = false := by
  intro c hMem
  obtain hDigit | rfl | rfl := h.chars.2 c hMem
  · refine ⟨⟨?_, ?_⟩, ?_⟩
    · rintro rfl
      cases hDigit
    · rintro rfl
      cases hDigit
    · cases hBlank : isBlank c with
      | false => rfl
      | true =>
        have hNot := (caseless_of_blank hBlank).digit
        rw [isDigit, if_pos, hDigit] at hNot
        · cases hNot
        · rw [isAsciiDigit, Bool.and_eq_true, decide_eq_true_eq, decide_eq_true_eq] at hDigit
          omega
  · decide
  · decide

theorem IsInteger.trim_eq {cs : List Char} {i : Int} (h : IsInteger cs i) : trim cs = cs := by
  rw [trim, trimStart_of_head fun c hHead => (h.plain_chars c (List.mem_of_head? hHead)).2,
    trimEnd_of_last fun c hLast => (h.plain_chars c (List.mem_of_getLast? hLast)).2]

/-- The value of the digits read so far only grows. -/
theorem le_ofDigitChars (cs : List Char) (value : Nat) :
    value ≤ Nat.ofDigitChars 10 cs value := by
  induction cs generalizing value with
  | nil => exact Nat.le_refl value
  | cons c rest ih =>
    rw [Nat.ofDigitChars_cons]
    exact Nat.le_trans (by omega) (ih _)

theorem readDigits_eq_ok {fault : NumeralFault} {max value n : Nat} {cs : List Char}
    (hValue : value ≤ max) : readDigits fault max value cs = .ok n ↔
      (∀ c ∈ cs, isAsciiDigit c = true) ∧ Nat.ofDigitChars 10 cs value = n ∧ n ≤ max := by
  induction cs generalizing value with
  | nil =>
    simp only [readDigits, Except.ok.injEq, List.not_mem_nil, false_implies, implies_true, true_and]
    constructor
    · rintro rfl
      exact ⟨rfl, hValue⟩
    · exact fun ⟨hSame, _⟩ => hSame
  | cons c rest ih =>
    rw [readDigits, digitValue?, List.forall_mem_cons, Nat.ofDigitChars_cons]
    cases hDigit : isAsciiDigit c with
    | false => simp
    | true =>
      have hNext : value * 10 + (c.toNat - 48) = 10 * value + (c.toNat - '0'.toNat) := by
        rw [Nat.mul_comm]
        rfl
      simp only [if_true, hNext, true_and]
      split
      · exact ih ‹_›
      · rename_i hLarge
        simp only [reduceCtorEq, false_iff, not_and]
        rintro - hSame hMax
        have hGrows := le_ofDigitChars rest (10 * value + (c.toNat - '0'.toNat))
        omega

theorem readMagnitude_eq_ok {fault : NumeralFault} {max n : Nat} {cs : List Char} :
    readMagnitude fault max cs = .ok n ↔ IsNumeral cs n ∧ n ≤ max := by
  cases cs with
  | nil =>
    simp only [readMagnitude, reduceCtorEq, false_iff, not_and]
    exact fun h => absurd rfl h.nonempty
  | cons c rest =>
    rw [readMagnitude, readDigits_eq_ok (Nat.zero_le max)]
    · exact ⟨fun ⟨hDigits, hSame, hMax⟩ => ⟨⟨by simp, hDigits, hSame⟩, hMax⟩,
        fun ⟨h, hMax⟩ => ⟨h.digits, h.value, hMax⟩⟩
    · simp

theorem readDigits_large {fault : NumeralFault} {max value : Nat} {cs : List Char}
    (hDigits : ∀ c ∈ cs, isAsciiDigit c = true) (hValue : value ≤ max)
    (hLarge : max < Nat.ofDigitChars 10 cs value) :
    readDigits fault max value cs = .error fault := by
  induction cs generalizing value with
  | nil => exact absurd hValue (Nat.not_le_of_lt hLarge)
  | cons c rest ih =>
    obtain ⟨hFirst, hRest⟩ := List.forall_mem_cons.mp hDigits
    have hNext : value * 10 + (c.toNat - 48) = 10 * value + (c.toNat - '0'.toNat) := by
      rw [Nat.mul_comm]
      rfl
    rw [Nat.ofDigitChars_cons] at hLarge
    simp only [readDigits, digitValue?, hFirst, if_true, hNext]
    split
    · exact ih hRest ‹_› hLarge
    · rfl

theorem readNat_large {max n : Nat} {cs : List Char} (h : IsNumeral cs n) (hLarge : max < n) :
    readNat max cs = .error .tooLarge := by
  have hDigits : readDigits .tooLarge max 0 cs = .error .tooLarge :=
    readDigits_large h.digits (Nat.zero_le max) (h.value.symm ▸ hLarge)
  unfold readNat
  split
  · exact absurd rfl h.nonempty
  · exact absurd rfl h.head.1
  · unfold readMagnitude
    split
    · exact absurd rfl h.nonempty
    · exact hDigits

theorem readNat_numeral {max n : Nat} {cs : List Char} (h : IsNumeral cs n) (hMax : n ≤ max) :
    readNat max cs = .ok n := by
  unfold readNat
  split
  · exact absurd rfl h.nonempty
  · exact absurd rfl h.head.1
  · exact readMagnitude_eq_ok.mpr ⟨h, hMax⟩

/-- Where there is no sign, a numeral is the only way to write a number. -/
theorem readNat_eq_ok {max n : Nat} {cs : List Char} (hSign : cs.head? ≠ some '+') :
    readNat max cs = .ok n ↔ IsNumeral cs n ∧ n ≤ max := by
  constructor
  · intro h
    unfold readNat at h
    split at h
    · cases h
    · exact absurd rfl hSign
    · exact readMagnitude_eq_ok.mp h
  · exact fun ⟨hNumeral, hMax⟩ => readNat_numeral hNumeral hMax

theorem readMagnitude_map_eq_ok {fault : NumeralFault} {max : Nat} {cs : List Char}
    {sign : Int → Int} {i : Int} :
    Except.map sign (do let n ← readMagnitude fault max cs; pure (n : Int)) = .ok i ↔
      ∃ n : Nat, IsNumeral cs n ∧ n ≤ max ∧ sign n = i := by
  constructor
  · intro h
    cases hRead : readMagnitude fault max cs with
    | error e =>
      rw [hRead] at h
      cases h
    | ok n =>
      rw [hRead] at h
      cases h
      obtain ⟨hNumeral, hMax⟩ := readMagnitude_eq_ok.mp hRead
      exact ⟨n, hNumeral, hMax, rfl⟩
  · rintro ⟨n, hNumeral, hMax, rfl⟩
    rw [readMagnitude_eq_ok.mpr ⟨hNumeral, hMax⟩]
    rfl

/-- A reader of `bits + 1` bits gives exactly the integers in its range. -/
theorem readInt_eq_ok {bits : Nat} {cs : List Char} {i : Int} :
    readInt bits cs = .ok i ↔ IsInteger cs i ∧ -(2 ^ bits : Int) ≤ i ∧ i < 2 ^ bits := by
  have hPower : ((2 ^ bits : Nat) : Int) = 2 ^ bits := by simp
  have hPos : 0 < 2 ^ bits := Nat.two_pow_pos bits
  unfold readInt
  simp only [Nat.one_shiftLeft]
  split
  · simp only [reduceCtorEq, false_iff, not_and]
    rintro ⟨hNumeral⟩
    exact absurd rfl hNumeral.nonempty
  · rw [readMagnitude_map_eq_ok]
    constructor
    · rintro ⟨n, hNumeral, hMax, rfl⟩
      exact ⟨.minus hNumeral, by omega, by omega⟩
    · rintro ⟨hInteger, hLow, hHigh⟩
      cases hInteger with
      | plain hNumeral => exact absurd rfl hNumeral.head.2
      | minus hNumeral => exact ⟨_, hNumeral, by omega, rfl⟩
  · rw [readMagnitude_map_eq_ok]
    constructor
    · rintro ⟨n, hNumeral, hMax, rfl⟩
      exact ⟨.plus hNumeral, by omega, by omega⟩
    · rintro ⟨hInteger, hLow, hHigh⟩
      cases hInteger with
      | plain hNumeral => exact absurd rfl hNumeral.head.1
      | plus hNumeral => exact ⟨_, hNumeral, by omega, rfl⟩
  · rename_i hMinus hPlus
    rw [readMagnitude_map_eq_ok]
    constructor
    · rintro ⟨n, hNumeral, hMax, rfl⟩
      exact ⟨.plain hNumeral, by omega, by omega⟩
    · rintro ⟨hInteger, hLow, hHigh⟩
      cases hInteger with
      | plain hNumeral => exact ⟨_, hNumeral, by omega, rfl⟩
      | plus => exact absurd rfl (hPlus _)
      | minus => exact absurd rfl (hMinus _)

end ValidityTables.Text
