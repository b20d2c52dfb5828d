import ValidityTables.Proofs.FirstEntry
import ValidityTables.Proofs.HeaderFields
import ValidityTables.Proofs.LineEnds
import ValidityTables.Services.Allocator

/-! # The number that an allocator prints

Only the last line of the output counts, and in it the first run of digits. They may be digits of
any script, but only a numeral in ASCII digits is a number, and it is a sequence number if it is
positive and has 32 bits. Everything else that an allocator may print is a failed allocation.
-/

namespace ValidityTables

open Text

namespace Text

section LastLine

/-- What comes after the last line feed of a text, apart from one at its very end. -/
def lastLine (text : List Char) : List Char :=
  let body := if text.getLast? = some '\n' then text.dropLast else text
  (body.reverse.takeWhile (· != '\n')).reverse

theorem takeWhile_unbroken {line : List Char} (h : '\n' ∉ line) :
    (line.reverse.takeWhile (· != '\n')).reverse = line := by
  rw [List.takeWhile_eq_self_iff.mpr, List.reverse_reverse]
  intro c hMem
  rw [bne_iff_ne]
  rintro rfl
  exact h (List.mem_reverse.mp hMem)

theorem lastLine_whole {line : List Char} (h : '\n' ∉ line) : lastLine line = line := by
  have hLast : line.getLast? ≠ some '\n' := fun hLast => h (List.mem_of_getLast? hLast)
  simp only [lastLine, if_neg hLast, takeWhile_unbroken h]

theorem lastLine_ended {line : List Char} (h : '\n' ∉ line) : lastLine (line ++ ['\n']) = line := by
  simp only [lastLine, List.getLast?_concat, if_true, List.dropLast_concat, takeWhile_unbroken h]

/-- Lines before the last one do not belong to it. -/
theorem lastLine_cut (front : List Char) {rest : List Char} (h : rest ≠ []) :
    lastLine (front ++ '\n' :: rest) = lastLine rest := by
  obtain ⟨c, more, rfl⟩ := List.exists_cons_of_ne_nil h
  have hStop (body : List Char) :
      ((front ++ '\n' :: body).reverse.takeWhile (· != '\n')).reverse =
        (body.reverse.takeWhile (· != '\n')).reverse := by
    have hReverse : (front ++ '\n' :: body).reverse = body.reverse ++ '\n' :: front.reverse := by
      simp
    rw [hReverse, Access.takeWhile_stop (by decide)]
  have hLast : (front ++ '\n' :: c :: more).getLast? = (c :: more).getLast? := by
    rw [List.getLast?_append_of_ne_nil _ (List.cons_ne_nil _ _), List.getLast?_cons_cons]
  have hInit : (front ++ '\n' :: c :: more).dropLast = front ++ '\n' :: (c :: more).dropLast := by
    rw [List.dropLast_append_of_ne_nil (List.cons_ne_nil _ _), List.dropLast_cons_cons]
  unfold lastLine
  rw [hLast, hInit]
  simp only
  split <;> exact hStop _

theorem linesFrom_eq_nil {line cs : List Char} :
    linesFrom '\n' '\r' line cs = [] ↔ line = [] ∧ cs = [] := by
  induction cs generalizing line with
  | nil => simp [linesFrom]
  | cons c rest ih =>
    unfold linesFrom
    split <;> simp [ih]

/-- A carriage return before the line feed at the very end is not cut off with it. -/
theorem lastLine_linesFrom {line : List Char} (h : '\n' ∉ line) (cs : List Char) :
    ∃ returns, (returns = [] ∨ returns = ['\r']) ∧
      lastLine (line.reverse ++ cs) =
        (linesFrom '\n' '\r' line cs).getLast?.getD [] ++ returns := by
  induction cs generalizing line with
  | nil =>
    refine ⟨[], .inl rfl, ?_⟩
    rw [List.append_nil, lastLine_whole (by simpa using h)]
    cases line <;> simp [linesFrom]
  | cons c rest ih =>
    unfold linesFrom
    split
    · rename_i hFeed
      subst hFeed
      by_cases hRest : rest = []
      · subst hRest
        rw [lastLine_ended (by simpa using h)]
        cases line with
        | nil => exact ⟨[], .inl rfl, rfl⟩
        | cons last before =>
          by_cases hReturn : last = '\r'
          · exact ⟨['\r'], .inr rfl, by simp [linesFrom, hReturn]⟩
          · exact ⟨[], .inl rfl, by simp [linesFrom, hReturn]⟩
      · have hSome : linesFrom '\n' '\r' [] rest ≠ [] := fun hNil =>
          hRest (linesFrom_eq_nil.mp hNil).2
        obtain ⟨next, more, hMore⟩ := List.exists_cons_of_ne_nil hSome
        obtain ⟨returns, hReturns, hLast⟩ := ih List.not_mem_nil
        refine ⟨returns, hReturns, ?_⟩
        rw [List.reverse_nil, List.nil_append] at hLast
        rw [lastLine_cut _ hRest, hLast, hMore, List.getLast?_cons_cons]
    · rename_i hOther
      obtain ⟨returns, hReturns, hLast⟩ := ih (show '\n' ∉ c :: line by simp [h, Ne.symm hOther])
      refine ⟨returns, hReturns, ?_⟩
      rw [← hLast, List.reverse_cons, List.append_assoc]
      rfl

end LastLine

section Run

/-- The first maximal run of digits of a line. -/
structure FirstRun (line before run after : List Char) : Prop where
  parts : line = before ++ (run ++ after)
  skipped : ∀ c ∈ before, isDigit c = false
  nonempty : run ≠ []
  digits : ∀ c ∈ run, isDigit c = true
  stops : ∀ c, after.head? = some c → isDigit c = false

/-- Where the first run of digits is found. -/
def digitRun (line : List Char) : List Char :=
  (line.dropWhile (!isDigit ·)).takeWhile isDigit

theorem FirstRun.digitRun_eq {line before run after : List Char}
    (h : FirstRun line before run after) : digitRun line = run := by
  have hBegins : ∀ c, (run ++ after).head? = some c → (!isDigit c) = false := by
    intro c hHead
    rw [List.head?_append_of_ne_nil _ h.nonempty] at hHead
    rw [h.digits c (List.mem_of_head? hHead)]
    rfl
  have hSkipped : ∀ c ∈ before, (!isDigit c) = true := fun c hMem => by rw [h.skipped c hMem]; rfl
  rw [digitRun, h.parts, (takeWhile_append_stop hSkipped hBegins).2,
    (takeWhile_append_stop h.digits h.stops).1]

theorem exists_firstRun {line : List Char} (h : digitRun line ≠ []) :
    ∃ before after, FirstRun line before (digitRun line) after := by
  have hFound := line.takeWhile_append_dropWhile (p := (!isDigit ·))
  have hRun := (line.dropWhile (!isDigit ·)).takeWhile_append_dropWhile (p := isDigit)
  refine ⟨line.takeWhile (!isDigit ·), (line.dropWhile (!isDigit ·)).dropWhile isDigit, ?_,
    fun c hMem => ?_, h, fun c hMem => List.mem_takeWhile_imp hMem, fun c hHead => ?_⟩
  · rw [digitRun, hRun, hFound]
  · simpa using List.mem_takeWhile_imp hMem
  · have hStop := List.head?_dropWhile_not isDigit (line.dropWhile (!isDigit ·))
    rw [hHead] at hStop
    exact hStop

theorem digitRun_return (line : List Char) : digitRun (line ++ ['\r']) = digitRun line := by
  have hStop : isDigit '\r' = false := by decide
  induction line with
  | nil => simp [digitRun, hStop]
  | cons c rest ih =>
    cases hDigit : isDigit c with
    | true =>
      have hKept (cs : List Char) : digitRun (c :: cs) = (c :: cs).takeWhile isDigit := by
        simp [digitRun, hDigit]
      rw [List.cons_append, hKept, hKept, ← List.cons_append, Access.takeWhile_stop hStop]
    | false =>
      have hSkipped (cs : List Char) : digitRun (c :: cs) = digitRun cs := by
        simp [digitRun, hDigit]
      rw [List.cons_append, hSkipped, hSkipped, ih]

end Run

end Text

namespace Allocator

/-- The digits that come first in a line are ASCII digits, and their value is positive and has 32
bits. -/
def Announces (line : List Char) (seqno : UInt32) : Prop :=
  ∃ before run after, FirstRun line before run after ∧ IsNumeral run seqno.toNat ∧ seqno ≠ 0

theorem parseSeqno_run (line : List Char) : parseSeqno line =
    match readNat (UInt32.size - 1) (digitRun line) with
    | .ok 0 => none
    | .ok n => some (UInt32.ofNat n)
    | .error _ => none := rfl

theorem parseSeqno_return (line : List Char) : parseSeqno (line ++ ['\r']) = parseSeqno line := by
  rw [parseSeqno_run, parseSeqno_run, digitRun_return]

theorem parseSeqno_eq_some {line : List Char} {seqno : UInt32} :
    parseSeqno line = some seqno ↔ Announces line seqno := by
  have hSign : (digitRun line).head? ≠ some '+' := by
    intro hHead
    have hDigit := List.mem_takeWhile_imp (List.mem_of_head? hHead)
    exact absurd hDigit (by decide)
  have hRead (n : Nat) : readNat (UInt32.size - 1) (digitRun line) = .ok n ↔
      IsNumeral (digitRun line) n ∧ n ≤ UInt32.size - 1 := readNat_eq_ok hSign
  rw [parseSeqno_run]
  constructor
  · intro h
    split at h
    · cases h
    · rename_i n hZero hNumber
      obtain ⟨hNumeral, hMax⟩ := (hRead n).mp hNumber
      obtain ⟨before, after, hRun⟩ := exists_firstRun hNumeral.nonempty
      cases h
      have hValue : (UInt32.ofNat n).toNat = n := UInt32.toNat_ofNat_of_lt
        (Nat.lt_of_le_of_lt hMax (by decide))
      refine ⟨before, _, after, hRun, hValue.symm ▸ hNumeral, fun hNone => ?_⟩
      rw [hNone] at hValue
      exact hZero hValue.symm
    · cases h
  · rintro ⟨before, run, after, hRun, hNumeral, hSome⟩
    have hMax : seqno.toNat ≤ UInt32.size - 1 := Nat.le_sub_one_of_lt seqno.toNat_lt
    obtain rfl := hRun.digitRun_eq
    rw [(hRead seqno.toNat).mpr ⟨hNumeral, hMax⟩]
    split
    · rename_i hZero
      exact absurd (UInt32.toNat_inj.mp (Except.ok.inj hZero)) hSome
    · rename_i n _ hNumber
      obtain rfl := Except.ok.inj hNumber
      rw [UInt32.ofNat_toNat]
    · rename_i hFault
      cases hFault

def refusal (table : String) (line : List Char) : UpdateError :=
  .allocation table ("no sequence number in allocator output '" ++ String.ofList (trim line) ++ "'")

variable (table : String) (stdout : List UInt8)

/-- The last line of the output, with what is no UTF-8 replaced. -/
def lastPrinted : List Char := lastLine (Utf8.decodeReplacing stdout)

theorem answer_eq_match : answer table stdout = match parseSeqno (lastPrinted stdout) with
    | some seqno => .ok seqno
    | none => .error (refusal table (lastPrinted stdout)) := by
  obtain ⟨returns, hReturns, hLast⟩ :=
    lastLine_linesFrom List.not_mem_nil (Utf8.decodeReplacing stdout)
  rw [List.reverse_nil, List.nil_append] at hLast
  rw [lastPrinted, hLast]
  obtain rfl | rfl := hReturns
  · rw [List.append_nil]
    rfl
  · rw [parseSeqno_return, refusal, trim_append (by decide)]
    rfl

theorem answer_eq_ok {seqno : UInt32} :
    answer table stdout = .ok seqno ↔ Announces (lastPrinted stdout) seqno := by
  rw [← parseSeqno_eq_some, answer_eq_match]
  split
  · rename_i number hNumber
    rw [hNumber, Except.ok.injEq, Option.some.injEq]
  · rename_i hNone
    simp [hNone]

theorem answer_eq_error (h : ∀ seqno, ¬Announces (lastPrinted stdout) seqno) :
    answer table stdout = .error (refusal table (lastPrinted stdout)) := by
  have hNone : parseSeqno (lastPrinted stdout) = none := by
    rw [Option.eq_none_iff_forall_ne_some]
    intro seqno hParsed
    exact h seqno (parseSeqno_eq_some.mp hParsed)
  rw [answer_eq_match, hNone]

theorem lastPrinted_later (earlier : List UInt8) {stdout : List UInt8} (h : stdout ≠ []) :
    lastPrinted (earlier ++ 10 :: stdout) = lastPrinted stdout := by
  rw [lastPrinted, Utf8.decodeReplacing_feed, lastLine_cut _ (Utf8.decodeReplacing_ne_nil h)]
  rfl

/-- The number of an allocator that could be started is the one that the last line of its output
announces, and if there is none the allocation fails. What comes before the last line, even if it is
no UTF-8, does not matter. -/
theorem allocate_announced :
    (∀ seqno, answer table stdout = .ok seqno ↔ Announces (lastPrinted stdout) seqno) ∧
    answer table stdout ≠ .ok 0 ∧
    ((∀ seqno, ¬Announces (lastPrinted stdout) seqno) →
      answer table stdout = .error (refusal table (lastPrinted stdout))) ∧
    (∀ earlier, stdout ≠ [] → answer table (earlier ++ 10 :: stdout) = answer table stdout) ∧
    ∀ program scope (host after : Host) finished,
      host.runProgram program [table, scopeArgument scope] [] = (.ok finished, after) →
      finished.stdout = stdout →
      allocate program table scope host = (answer table stdout, after) := by
  refine ⟨fun seqno => answer_eq_ok table stdout, ?_, answer_eq_error table stdout, ?_, ?_⟩
  · rw [ne_eq, answer_eq_ok]
    rintro ⟨_, _, _, -, -, hZero⟩
    exact hZero rfl
  · intro earlier hSome
    rw [answer_eq_match, answer_eq_match, lastPrinted_later earlier hSome]
  · rintro program scope host after finished hRun rfl
    rw [allocate, hRun]

/-- A program that prints an earlier line and a byte that is no UTF-8. -/
theorem allocate_announced_padded :
    (allocate "printf" "9\\n\\377: 0042, %s\\n" .locally
      (Host.ofInput ⟨none, none, none⟩ "2020-01-01 00:00:00")).1 = .ok 42 := by
  let host := Host.ofInput ⟨none, none, none⟩ "2020-01-01 00:00:00"
  let table := "9\\n\\377: 0042, %s\\n"
  let stdout : List UInt8 := [57, 10, 255, 58, 32, 48, 48, 52, 50, 44, 32, 45, 49, 10]
  have hRun : (host.runProgram "printf" [table, scopeArgument .locally] []).1 =
      .ok ⟨0, stdout, []⟩ := by decide +kernel
  have hLine : lastPrinted stdout = "\uFFFD: 0042, -1".toList := by decide +kernel
  have hAnnounces : Announces (lastPrinted stdout) 42 := by
    rw [hLine]
    have hDigits : "0042".toList.all isAsciiDigit = true := by decide
    have hNumeral : IsNumeral "0042".toList 42 :=
      ⟨by decide, List.all_eq_true.mp hDigits, by decide⟩
    have hSkipped : "\uFFFD: ".toList.all (!isDigit ·) = true := by decide +kernel
    have hRun : FirstRun "\uFFFD: 0042, -1".toList "\uFFFD: ".toList "0042".toList ", -1".toList :=
      ⟨rfl, by simpa using hSkipped, by decide, Header.isDigit_of_numeral hNumeral,
        by rintro c ⟨⟩; decide⟩
    exact ⟨_, _, _, hRun, hNumeral, by decide⟩
  obtain ⟨hNumber, -, -, -, hAllocate⟩ := allocate_announced table stdout
  rw [hAllocate "printf" .locally host _ _ (Prod.ext hRun rfl) rfl]
  exact (hNumber 42).mpr hAnnounces

end Allocator

end ValidityTables
