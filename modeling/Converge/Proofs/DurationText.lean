import Converge.Duration.Reader
import Converge.Json.Number

/-!
# The text of a duration

A number of seconds with its unit after it, the form in which durations are sent, is read as this number
again. The digits are read off one by one (`readSpans_digits`), and what they write is the number by the
library's own account of decimal digits. Main theorem: `Duration.seconds_intText`.
-/

namespace Converge

/-! ## Digits -/

theorem Text.trimBoth_eq_self {p : Char → Bool} {c d : Char} (hc : p c = false) (cs : List Char)
    (hd : p d = false) : trimBoth p (c :: cs ++ [d]) = c :: cs ++ [d] := by
  have hfront : (c :: cs ++ [d]).dropWhile p = c :: cs ++ [d] := by simp [hc]
  have hback : (c :: cs ++ [d]).reverse.dropWhile p = (c :: cs ++ [d]).reverse := by simp [hd]
  rw [trimBoth, hfront, hback, List.reverse_reverse]

namespace Duration

open Text (isWhiteSpace)

theorem isDigit_iff {c : Char} : isDigit c = true ↔ 48 ≤ c.toNat ∧ c.toNat ≤ 57 := by
  simp only [isDigit, decide_eq_true_eq, Char.le_def, UInt32.le_iff_toNat_le]
  rfl

theorem not_isWhiteSpace_of_isDigit {c : Char} (h : isDigit c = true) : isWhiteSpace c = false := by
  have hall : ∀ n ∈ List.range' 48 10, Text.inRanges Text.whiteSpaceRanges n = false := by decide
  obtain ⟨hlow, hhigh⟩ := isDigit_iff.1 h
  exact hall c.toNat (List.mem_range'_1.2 ⟨hlow, by omega⟩)

/-- Every number has a first digit. -/
theorem exists_decimalDigits (n : Nat) :
    ∃ d ds, Decimal.decimalDigits n = d :: ds ∧ isDigit d = true ∧ ∀ c ∈ ds, isDigit c = true := by
  have hdigits : ∀ c ∈ Decimal.decimalDigits n, isDigit c = true := by
    intro c hc
    have hdigit : c.isDigit = true := Nat.isDigit_of_mem_toDigits (by omega) (by omega) hc
    rw [isDigit_iff]
    simpa [Char.isDigit, UInt32.le_iff_toNat_le] using hdigit
  cases hds : Decimal.decimalDigits n with
  | nil => exact absurd hds Nat.toDigits_ne_nil
  | cons d ds =>
    rw [hds] at hdigits
    exact ⟨d, ds, rfl, List.forall_mem_cons.1 hdigits⟩

/-- The digits of a number write it. -/
theorem foldl_decimalDigits (n : Nat) :
    (Decimal.decimalDigits n).foldl (fun n c => n * 10 + digitValue c) 0 = n := by
  have hfold := @Nat.ofDigitChars_eq_foldl 10 (Decimal.decimalDigits n) 0
  simp only [Nat.mul_comm 10] at hfold
  exact hfold.symm.trans Nat.ofDigitChars_ten_toDigits

/-! ## Spans -/

/-- The reader takes up a run of digits. -/
theorem readSpans_digits {ds : List Char} (h : ∀ c ∈ ds, isDigit c = true) (n : Nat) (cs : List Char) :
    readSpans (.number n) (ds ++ cs) =
      readSpans (.number (ds.foldl (fun n c => n * 10 + digitValue c) n)) cs := by
  induction ds generalizing n with
  | nil => rfl
  | cons d ds ih =>
    obtain ⟨hd, hds⟩ := List.forall_mem_cons.1 h
    rw [List.cons_append, readSpans, if_pos hd, ih hds]
    rfl

/-- A number of seconds is one span. -/
theorem readSpans_seconds (n : Nat) :
    readSpans .between (Decimal.decimalDigits n ++ ['s']) = ⟨[⟨n, none, .second⟩], true⟩ := by
  have hvalue := foldl_decimalDigits n
  obtain ⟨d, ds, hds, hd, hrest⟩ := exists_decimalDigits n
  rw [hds] at hvalue ⊢
  simp only [List.foldl_cons, Nat.zero_mul, Nat.zero_add] at hvalue
  rw [List.cons_append, readSpans, if_pos hd, readSpans_digits hrest, hvalue]
  have hunit : TimeUnit.ofSpelling? "s" = some .second := by decide
  have hletter : isDigit 's' = false ∧ isWhiteSpace 's' = false ∧ isUnitLetter 's' = true := by decide
  simp [readSpans, hletter, span?, hunit, Reading.cons, Reading.stop]

theorem ofSpans_seconds {n : Nat} (h : n < 9223372036854775808) :
    Elapsed.ofSpans [⟨n, none, .second⟩] = .ok ⟨n, 0⟩ := by
  have hword : ∀ m, m < 9223372036854775808 → word m = .ok m := by
    intro m hm
    rw [word, if_pos (by omega)]
  have hzero : word 0 = .ok 0 := hword 0 (by omega)
  have hadd : Elapsed.zero.add n 0 = .ok ⟨n, 0⟩ := by
    simp only [Elapsed.add, Elapsed.zero, Elapsed.nanosPerSecond, Nat.add_zero, Nat.zero_add, Nat.zero_div,
      Nat.zero_mod, hzero, hword n h, bind, Except.bind, pure, Except.pure]
    rfl
  have hworth : Elapsed.zero.addWorth n (.seconds 1) = .ok ⟨n, 0⟩ := by
    simp only [Elapsed.addWorth, Nat.mul_one, hword n h, Except.bind, hadd]
  have hspan : Elapsed.zero.addSpan ⟨n, none, .second⟩ = .ok ⟨n, 0⟩ := by
    simp only [Elapsed.addSpan, TimeUnit.worth, hword n h, bind, Except.bind, hworth]
  rw [Elapsed.ofSpans, List.foldlM_cons, hspan]
  rfl

/-- What ends in a unit is no plain number. -/
theorem wholeNumber?_of_unit {d : Char} {ds : List Char} (hd : isDigit d = true) :
    wholeNumber? (d :: ds ++ ['s']) = none := by
  have hnone : digits? (d :: ds ++ ['s']) = none := by
    have hletter : isDigit 's' = false := by decide
    simp [digits?, hletter]
  have hminus : d ≠ '-' := by
    rintro rfl
    cases hd
  have hplus : d ≠ '+' := by
    rintro rfl
    cases hd
  unfold wholeNumber?
  split
  · rename_i heq
    cases heq
    exact absurd rfl hminus
  · rename_i heq
    cases heq
    exact absurd rfl hplus
  · rw [hnone]
    rfl

/-- **A number of seconds is read as it was written.** -/
theorem seconds_intText {i : Int64} (h : 0 ≤ i.toInt) : seconds (Number.intText i.toInt ++ "s") = .ok i := by
  have hbound : i.toInt.natAbs < 9223372036854775808 := by
    have := i.toInt_lt
    omega
  have htext : (Number.intText i.toInt ++ "s").toList = Decimal.decimalDigits i.toInt.natAbs ++ ['s'] := by
    simp [Number.intText, Int.not_lt.2 h]
  have hvalue : ((i.toInt.natAbs : Int)) = i.toInt := Int.natAbs_of_nonneg h
  have hspan : spanSeconds (Decimal.decimalDigits i.toInt.natAbs ++ ['s']) = .ok (i.toInt.natAbs : Int) := by
    simp only [spanSeconds, readSpans_seconds, ofSpans_seconds hbound, bind, Except.bind]
    rw [if_pos ⟨trivial, by simp, trivial, hbound⟩]
    rfl
  obtain ⟨d, ds, hds, hd, _⟩ := exists_decimalDigits i.toInt.natAbs
  rw [hds] at htext hspan
  have hunit : isWhiteSpace 's' = false := by decide
  have htrim := Text.trimBoth_eq_self (not_isWhiteSpace_of_isDigit hd) ds hunit
  simp only [seconds, htext, htrim, wholeNumber?_of_unit hd, hspan, Except.map, hvalue, Int64.ofInt_toInt]

/-- A negative number of seconds has no reading: a sign starts neither a span nor, before a unit, a number. -/
theorem seconds_intText_of_neg {i : Int64} (h : i.toInt < 0) :
    seconds (Number.intText i.toInt ++ "s") = .error .unreadable := by
  have htext : (Number.intText i.toInt ++ "s").toList = '-' :: Decimal.decimalDigits i.toInt.natAbs ++ ['s'] := by
    simp [Number.intText, h]
  have hsign : isDigit '-' = false ∧ isWhiteSpace '-' = false := by decide
  have hunit : isDigit 's' = false ∧ isWhiteSpace 's' = false := by decide
  have hnumber : wholeNumber? ('-' :: Decimal.decimalDigits i.toInt.natAbs ++ ['s']) = none := by
    simp [wholeNumber?, digits?, hunit]
  have hspan : spanSeconds ('-' :: Decimal.decimalDigits i.toInt.natAbs ++ ['s']) = .error .unreadable := by
    simp only [spanSeconds, List.cons_append, readSpans, hsign, Reading.stop]
    rfl
  have htrim := Text.trimBoth_eq_self hsign.2 (Decimal.decimalDigits i.toInt.natAbs) hunit.2
  simp only [seconds, htext, htrim, hnumber, hspan, Except.map]

/-- The form in which durations are sent never overflows. -/
theorem overflows_intText {i : Int64} (h : 0 ≤ i.toInt) : overflows (Number.intText i.toInt ++ "s") = false := by
  rw [overflows, seconds_intText h]

end Duration

end Converge
