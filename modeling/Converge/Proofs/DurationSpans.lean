import Converge.Proofs.DurationText
import Converge.Proofs.NormalForm

/-!
# Durations in spans

A duration can be spelled in many ways: as any sequence of spans, in any spelling of their units, with blanks
wherever they may stand. What a text says depends on the exact sum of its spans alone, as long as this is below the
number of seconds that 64 bits hold; the seconds and the nanoseconds that are kept while spans are added up are the
exact sum so far (`Elapsed.ofNanos`), and one step of the addition either gives the next sum or notices that it does
not fit (`Spelled.addSpan_cases`). A sum that does not fit is never read as a number. There is one way in which it
is not refused either: nanoseconds that fill up the last second (`FillsUp`) are an overflow. Main theorem:
`Duration.seconds_spelled`.
-/

namespace Converge

namespace Duration

open Text (isWhiteSpace trimBoth)

/-! ## Letters -/

theorem isUnitLetter_iff {c : Char} : isUnitLetter c = true ↔
    (97 ≤ c.toNat ∧ c.toNat ≤ 122) ∨ (65 ≤ c.toNat ∧ c.toNat ≤ 90) ∨ c.toNat = 181 := by
  have hmicro : c = 'µ' ↔ c.toNat = 181 := by
    rw [← Char.toNat_inj]
    rfl
  simp only [isUnitLetter, Bool.or_eq_true, decide_eq_true_eq, Char.le_def, UInt32.le_iff_toNat_le, hmicro, or_assoc]
  rfl

/-- A letter of a unit is neither a digit nor a blank. -/
theorem not_of_isUnitLetter {c : Char} (h : isUnitLetter c = true) : isDigit c = false ∧ isWhiteSpace c = false := by
  have hall : ∀ n ∈ List.range' 97 26 ++ List.range' 65 26 ++ [181],
      Text.inRanges Text.whiteSpaceRanges n = false := by decide
  rw [isUnitLetter_iff] at h
  constructor
  · rw [← Bool.not_eq_true, isDigit_iff]
    omega
  · refine hall c.toNat ?_
    simp only [List.mem_append, List.mem_range'_1, List.mem_singleton]
    omega

theorem not_isUnitLetter_of_isDigit {c : Char} (h : isDigit c = true) : isUnitLetter c = false := by
  rw [← Bool.not_eq_true]
  intro hletter
  rw [(not_of_isUnitLetter hletter).1] at h
  cases h

/-- A blank is neither a digit nor a letter of a unit. -/
theorem not_of_isWhiteSpace {c : Char} (h : isWhiteSpace c = true) : isDigit c = false ∧ isUnitLetter c = false := by
  constructor
  · rw [← Bool.not_eq_true]
    intro hdigit
    rw [not_isWhiteSpace_of_isDigit hdigit] at h
    cases h
  · rw [← Bool.not_eq_true]
    intro hletter
    rw [(not_of_isUnitLetter hletter).2] at h
    cases h

/-- A unit has the spellings that are listed for it, and they are words of its letters. -/
theorem spelling_rules (u : TimeUnit) : ∀ s ∈ u.spellings,
    TimeUnit.ofSpelling? s = some u ∧ s.toList ≠ [] ∧ ∀ c ∈ s.toList, isUnitLetter c = true := by
  have hlisted : ∀ s ∈ u.spellings,
      TimeUnit.ofSpelling? s = some u ∧ s.toList ≠ [] ∧ s.toList.all isUnitLetter = true := by
    cases u <;> decide
  exact fun s hs => (hlisted s hs).imp_right fun h => h.imp_right List.all_eq_true.1

/-! ## Spellings -/

def TimeUnit.nanos (u : TimeUnit) : Nat :=
  match u.worth with
  | .nanos n => n
  | .seconds n => n * 1000000000

def TimeUnit.isSubsecond (u : TimeUnit) : Bool :=
  match u.worth with
  | .nanos _ => true
  | .seconds _ => false

def numberOf (ds : List Char) : Nat := ds.foldl (fun n c => n * 10 + digitValue c) 0

/-- A span as it is spelled out: digits and one of the spellings of a unit, and blanks before each of the two. -/
structure Spelled where
  before : List Char
  digits : List Char
  between : List Char
  unit : TimeUnit
  spelling : String
  before_blank : ∀ c ∈ before, isWhiteSpace c = true
  digits_ne_nil : digits ≠ []
  digits_digit : ∀ c ∈ digits, isDigit c = true
  between_blank : ∀ c ∈ between, isWhiteSpace c = true
  spelling_mem : spelling ∈ unit.spellings

namespace Spelled

def count (s : Spelled) : Nat := numberOf s.digits

def nanos (s : Spelled) : Nat := s.count * s.unit.nanos

def chars (s : Spelled) : List Char := s.before ++ s.digits ++ s.between ++ s.spelling.toList

def span (s : Spelled) : Span := ⟨s.count, none, s.unit⟩

end Spelled

/-- What spans come to in nanoseconds. -/
def total : List Spelled → Nat
  | [] => 0
  | s :: spans => s.nanos + total spans

/-- The text of spans, one after the other, with blanks behind them. -/
def spell (spans : List Spelled) (behind : List Char) : String := String.ofList (spans.flatMap Spelled.chars ++ behind)

@[simp] theorem total_nil : total [] = 0 := rfl

@[simp] theorem total_cons (s : Spelled) (spans : List Spelled) : total (s :: spans) = s.nanos + total spans := rfl

/-! ## Reading -/

/-- Blanks count for nothing before a span. -/
theorem readSpans_blanks {bs : List Char} (h : ∀ c ∈ bs, isWhiteSpace c = true) (cs : List Char) :
    readSpans .between (bs ++ cs) = readSpans .between cs := by
  induction bs with
  | nil => rfl
  | cons b bs ih =>
    obtain ⟨hb, hbs⟩ := List.forall_mem_cons.1 h
    rw [List.cons_append, readSpans, if_neg (by simp [not_of_isWhiteSpace hb]), if_pos hb, ih hbs]

/-- Blanks count for nothing behind a number. -/
theorem readSpans_number_blanks {bs : List Char} (h : ∀ c ∈ bs, isWhiteSpace c = true) (n : Nat) (cs : List Char) :
    readSpans (.number n) (bs ++ cs) = readSpans (.number n) cs := by
  induction bs with
  | nil => rfl
  | cons b bs ih =>
    obtain ⟨hb, hbs⟩ := List.forall_mem_cons.1 h
    rw [List.cons_append, readSpans, if_neg (by simp [not_of_isWhiteSpace hb]), if_pos hb, ih hbs]

/-- The reader takes up the letters of a unit. -/
theorem readSpans_letters {us : List Char} (h : ∀ c ∈ us, isUnitLetter c = true) (n : Nat) (f : Option Fraction)
    (letters cs : List Char) :
    readSpans (.unit n f letters) (us ++ cs) = readSpans (.unit n f (us.reverse ++ letters)) cs := by
  induction us generalizing letters with
  | nil => rfl
  | cons u us ih =>
    obtain ⟨hu, hus⟩ := List.forall_mem_cons.1 h
    rw [List.cons_append, readSpans, if_pos hu, ih hus, List.reverse_cons, List.append_assoc]
    rfl

/-- A unit ends with the text, at a digit or at a blank, and then the next span begins. -/
theorem readSpans_unit_end {n : Nat} {f : Option Fraction} {letters cs : List Char} {s : Span}
    (hs : span? n f letters = some s) (h : ∀ c ∈ cs.head?, isDigit c = true ∨ isWhiteSpace c = true) :
    readSpans (.unit n f letters) cs = (readSpans .between cs).cons s := by
  cases cs with
  | nil => simp [readSpans, hs]
  | cons c cs =>
    have hc : isDigit c = true ∨ isWhiteSpace c = true := h c rfl
    rcases hc with hc | hc
    · simp [readSpans, not_isUnitLetter_of_isDigit hc, hc, hs]
    · simp [readSpans, not_of_isWhiteSpace hc, hc, hs]

namespace Spelled

variable (s : Spelled)

theorem span?_letters : span? s.count none s.spelling.toList.reverse = some s.span := by
  rw [span?, List.reverse_reverse, String.ofList_toList, (spelling_rules s.unit _ s.spelling_mem).1]
  rfl

/-- A span begins with a digit or a blank. -/
theorem head?_chars (cs : List Char) :
    ∀ c ∈ (s.chars ++ cs).head?, isDigit c = true ∨ isWhiteSpace c = true := by
  obtain ⟨d, ds, hds⟩ := List.exists_cons_of_ne_nil s.digits_ne_nil
  intro c hc
  cases hb : s.before with
  | nil =>
    simp only [chars, hb, hds, List.nil_append, List.cons_append, List.head?_cons, Option.mem_some_iff] at hc
    exact .inl (s.digits_digit c (by simp [hds, hc]))
  | cons b bs =>
    simp only [chars, hb, List.cons_append, List.head?_cons, Option.mem_some_iff] at hc
    exact .inr (s.before_blank c (by simp [hb, hc]))

/-- **A spelled span is read as the span** in front of what follows it. -/
theorem readSpans_chars {cs : List Char} (h : ∀ c ∈ cs.head?, isDigit c = true ∨ isWhiteSpace c = true) :
    readSpans .between (s.chars ++ cs) = (readSpans .between cs).cons s.span := by
  obtain ⟨_, hne, hletters⟩ := spelling_rules s.unit _ s.spelling_mem
  obtain ⟨d, ds, hds⟩ := List.exists_cons_of_ne_nil s.digits_ne_nil
  obtain ⟨u, us, hus⟩ := List.exists_cons_of_ne_nil hne
  have hdigits := s.digits_digit
  have hspan := s.span?_letters
  rw [hds] at hdigits
  rw [hus] at hletters hspan
  obtain ⟨hd, hrest⟩ := List.forall_mem_cons.1 hdigits
  obtain ⟨hu, hothers⟩ := List.forall_mem_cons.1 hletters
  have hcount : ds.foldl (fun n c => n * 10 + digitValue c) (digitValue d) = s.count := by
    rw [count, numberOf, hds, List.foldl_cons, Nat.zero_mul, Nat.zero_add]
  have hfirst : readSpans (.number s.count) (u :: (us ++ cs)) = readSpans (.unit s.count none [u]) (us ++ cs) := by
    simp [readSpans, not_of_isUnitLetter hu, hu]
  calc readSpans .between (s.chars ++ cs)
    _ = readSpans .between (s.digits ++ (s.between ++ (s.spelling.toList ++ cs))) := by
      simp only [chars, List.append_assoc]
      exact readSpans_blanks s.before_blank _
    _ = readSpans (.number s.count) (s.between ++ (s.spelling.toList ++ cs)) := by
      rw [hds, List.cons_append, readSpans, if_pos hd, readSpans_digits hrest, hcount]
    _ = readSpans (.unit s.count none [u]) (us ++ cs) := by
      rw [readSpans_number_blanks s.between_blank, hus, List.cons_append, hfirst]
    _ = (readSpans .between cs).cons s.span := by
      rw [readSpans_letters hothers]
      exact readSpans_unit_end (by simpa using hspan) h

end Spelled

theorem readSpans_flatMap (spans : List Spelled) :
    readSpans .between (spans.flatMap Spelled.chars) = ⟨spans.map Spelled.span, true⟩ := by
  induction spans with
  | nil => rfl
  | cons s spans ih =>
    have hnext : ∀ c ∈ (spans.flatMap Spelled.chars).head?, isDigit c = true ∨ isWhiteSpace c = true := by
      cases spans with
      | nil => nofun
      | cons t spans => exact t.head?_chars _
    rw [List.flatMap_cons, s.readSpans_chars hnext, ih]
    rfl

/-- Blanks finish no fraction. -/
theorem readSpans_fraction_blanks {bs : List Char} (h : ∀ c ∈ bs, isWhiteSpace c = true) (n : Nat) (f : Fraction) :
    readSpans (.fraction n f) bs = .stop false := by
  induction bs with
  | nil => rfl
  | cons b bs ih =>
    obtain ⟨hb, hbs⟩ := List.forall_mem_cons.1 h
    rw [readSpans, if_neg (by simp [not_of_isWhiteSpace hb]), if_pos hb, ih hbs]

/-- Blanks count for nothing at the end, wherever the reader is. -/
theorem readSpans_append_blanks {bs : List Char} (h : ∀ c ∈ bs, isWhiteSpace c = true) (p : Place) (cs : List Char) :
    readSpans p (cs ++ bs) = readSpans p cs := by
  induction cs generalizing p with
  | nil =>
    have hbetween : readSpans .between bs = .stop true := by
      rw [← List.append_nil bs, readSpans_blanks h, readSpans]
    cases p with
    | between => exact hbetween
    | number n =>
      rw [List.nil_append, ← List.append_nil bs, readSpans_number_blanks h]
    | fraction n f => exact readSpans_fraction_blanks h n f
    | unit n f letters =>
      cases bs with
      | nil => rfl
      | cons b bs =>
        obtain ⟨hb, hbs⟩ := List.forall_mem_cons.1 h
        rw [readSpans, if_neg (by simp [not_of_isWhiteSpace hb]), if_pos hb] at hbetween
        simp [readSpans, not_of_isWhiteSpace hb, hb, hbetween]
  | cons c cs ih => cases p <;> simp only [List.cons_append, readSpans, ih]

theorem readSpans_trimBoth (cs : List Char) :
    readSpans .between (trimBoth isWhiteSpace cs) = readSpans .between cs := by
  obtain ⟨front, back, hcs, hfront, hback⟩ := Text.exists_append_trimBoth isWhiteSpace cs
  calc readSpans .between (trimBoth isWhiteSpace cs)
    _ = readSpans .between (front ++ (trimBoth isWhiteSpace cs ++ back)) := by
      rw [readSpans_blanks hfront, readSpans_append_blanks hback]
    _ = readSpans .between cs := by rw [← List.append_assoc, ← hcs]

/-! ## Whole numbers -/

theorem digits?_eq_none_of_mem {c : Char} {cs : List Char} (hc : isDigit c = false) (h : c ∈ cs) :
    digits? cs = none := by
  have hall : cs.all isDigit = false := List.all_eq_false.2 ⟨c, h, by simp [hc]⟩
  simp [digits?, hall]

/-- What has the letter of a unit in it is no plain number. -/
theorem wholeNumber?_of_letter {c : Char} {cs : List Char} (hc : isUnitLetter c = true) (h : c ∈ cs) :
    wholeNumber? cs = none := by
  have hdigit := (not_of_isUnitLetter hc).1
  have hsigns : c ≠ '-' ∧ c ≠ '+' := by
    constructor <;> (rintro rfl; cases hc)
  unfold wholeNumber?
  split
  · rw [digits?_eq_none_of_mem hdigit (List.mem_of_ne_of_mem hsigns.1 h)]
    rfl
  · rw [digits?_eq_none_of_mem hdigit (List.mem_of_ne_of_mem hsigns.2 h)]
    rfl
  · rw [digits?_eq_none_of_mem hdigit h]
    rfl

/-- A text with the letter of a unit in it is read as spans. -/
theorem seconds_of_letter {c : Char} {text : String} (hc : isUnitLetter c = true) (h : c ∈ text.toList) :
    seconds text = (spanSeconds text.toList).map Int64.ofInt := by
  obtain ⟨front, back, htext, hfront, hback⟩ := Text.exists_append_trimBoth isWhiteSpace text.toList
  have hblank := (not_of_isUnitLetter hc).2
  have hmem : c ∈ trimBoth isWhiteSpace text.toList := by
    rw [htext] at h
    rcases List.mem_append.1 h with h | h
    · rcases List.mem_append.1 h with h | h
      · rw [hfront c h] at hblank
        cases hblank
      · exact h
    · rw [hback c h] at hblank
      cases hblank
  simp only [seconds, wholeNumber?_of_letter hc hmem, spanSeconds, readSpans_trimBoth]

/-! ## Adding up -/

namespace Elapsed

/-- The nanoseconds after which the seconds do not fit 64 bits any more. -/
def limit : Nat := 18446744073709551616 * nanosPerSecond

def ofNanos (n : Nat) : Elapsed := ⟨n / nanosPerSecond, n % nanosPerSecond⟩

end Elapsed

open Elapsed (limit nanosPerSecond ofNanos)

theorem word_of_lt {n : Nat} (h : n < 18446744073709551616) : word n = .ok n := if_pos h

theorem word_of_le {n : Nat} (h : 18446744073709551616 ≤ n) : word n = .error .unreadable := if_neg (Nat.not_lt.2 h)

/-- Adding nanoseconds to a sum gives the next sum, or fills up the last second, or does not fit. -/
theorem Elapsed.add_nanos_cases {a x : Nat} (ha : a < limit) (hx : x < 9223372036854775808) :
    (a + x < limit ∧ (ofNanos a).add 0 x = .ok (ofNanos (a + x))) ∨
    ((a + x = limit ∧ limit ≤ a + nanosPerSecond) ∧ (ofNanos a).add 0 x = .error .overflow) ∨
    (limit ≤ a + x ∧ ¬ (a + x = limit ∧ limit ≤ a + nanosPerSecond) ∧
      (ofNanos a).add 0 x = .error .unreadable) := by
  simp only [limit, nanosPerSecond] at ha ⊢
  have hsum : word (a % 1000000000 + x) = .ok (a % 1000000000 + x) := word_of_lt (by omega)
  have hsec : word (a / 1000000000) = .ok (a / 1000000000) := word_of_lt (by omega)
  simp only [add, ofNanos, nanosPerSecond, hsum, hsec, bind, Except.bind, Nat.add_zero]
  by_cases hfull : a % 1000000000 + x = 1000000000
  · rw [if_pos hfull, tick]
    by_cases hlast : a / 1000000000 + 1 < 18446744073709551616
    · refine .inl ⟨by omega, ?_⟩
      have hcarry : (a + x) / 1000000000 = a / 1000000000 + 1 ∧ (a + x) % 1000000000 = 0 := by omega
      rw [if_pos hlast, hcarry.1, hcarry.2]
    · refine .inr (.inl ⟨by omega, ?_⟩)
      rw [if_neg hlast]
  · have hcarry : a / 1000000000 + (a % 1000000000 + x) / 1000000000 = (a + x) / 1000000000 ∧
        (a % 1000000000 + x) % 1000000000 = (a + x) % 1000000000 := by omega
    rw [if_neg hfull, hcarry.1, hcarry.2]
    by_cases hfits : a + x < 18446744073709551616 * 1000000000
    · refine .inl ⟨hfits, ?_⟩
      rw [word_of_lt (by omega)]
      rfl
    · refine .inr (.inr ⟨by omega, by omega, ?_⟩)
      rw [word_of_le (by omega)]

/-- Adding seconds to a sum gives the next sum or does not fit. -/
theorem Elapsed.add_seconds_cases (a x : Nat) :
    (a + x * nanosPerSecond < limit ∧ (ofNanos a).add x 0 = .ok (ofNanos (a + x * nanosPerSecond))) ∨
    (limit ≤ a + x * nanosPerSecond ∧ (ofNanos a).add x 0 = .error .unreadable) := by
  simp only [limit, nanosPerSecond]
  have hnanos : word (a % 1000000000) = .ok (a % 1000000000) := word_of_lt (by omega)
  have hbelow : a % 1000000000 ≠ 1000000000 := by omega
  have hsum : a / 1000000000 + x + a % 1000000000 / 1000000000 = (a + x * 1000000000) / 1000000000 ∧
      a % 1000000000 % 1000000000 = (a + x * 1000000000) % 1000000000 := by omega
  simp only [add, ofNanos, nanosPerSecond, hnanos, bind, Except.bind, Nat.add_zero, if_neg hbelow, hsum]
  by_cases hfits : a + x * 1000000000 < 18446744073709551616 * 1000000000
  · refine .inl ⟨hfits, ?_⟩
    rw [word_of_lt (by omega)]
    rfl
  · refine .inr ⟨by omega, ?_⟩
    rw [word_of_le (by omega)]

/-- A span fills up the last second of a sum: it is one of a unit below the second, it comes on top of all but at most
one second, and it is exactly what is left. -/
def Spelled.Fills (s : Spelled) (a : Nat) : Prop :=
  s.unit.isSubsecond = true ∧ a + s.nanos = limit ∧ limit ≤ a + nanosPerSecond

/-- A span of a unit below the second has nanoseconds that 64 bits hold with a sign. -/
def Spelled.Fits (s : Spelled) : Prop := s.unit.isSubsecond = true → s.nanos < 9223372036854775808

instance (s : Spelled) : Decidable s.Fits := inferInstanceAs (Decidable (_ → _))

theorem TimeUnit.worth_pos {u : TimeUnit} {k : Nat} (h : u.worth = .nanos k ∨ u.worth = .seconds k) : 0 < k := by
  cases u <;> rcases h with h | h <;> cases h <;> decide

/-- **What adding a span does**: it gives the next sum, or fills up the last second, or does not fit. -/
theorem Spelled.addSpan_cases {s : Spelled} (hs : s.Fits) {a : Nat} (ha : a < limit) :
    (a + s.nanos < limit ∧ (ofNanos a).addSpan s.span = .ok (ofNanos (a + s.nanos))) ∨
    (s.Fills a ∧ (ofNanos a).addSpan s.span = .error .overflow) ∨
    (limit ≤ a + s.nanos ∧ ¬ s.Fills a ∧ (ofNanos a).addSpan s.span = .error .unreadable) := by
  cases hworth : s.unit.worth with
  | nanos k =>
    have hsub : s.unit.isSubsecond = true := by rw [TimeUnit.isSubsecond, hworth]
    have hnanos : s.nanos = s.count * k := by rw [nanos, TimeUnit.nanos, hworth]
    have hfits : s.count * k < 9223372036854775808 := hnanos ▸ hs hsub
    have hle : s.count ≤ s.count * k := Nat.le_mul_of_pos_right _ (TimeUnit.worth_pos (.inl hworth))
    have hadd : (ofNanos a).addSpan s.span = (ofNanos a).add 0 (s.count * k) := by
      simp only [Elapsed.addSpan, span, word_of_lt (show s.count < 18446744073709551616 by omega), bind, Except.bind,
        hworth, Elapsed.addWorth, word_of_lt (show s.count * k < 18446744073709551616 by omega)]
    simp only [Fills, hsub, true_and, hadd, hnanos]
    exact Elapsed.add_nanos_cases ha hfits
  | seconds k =>
    have hsub : s.unit.isSubsecond = false := by rw [TimeUnit.isSubsecond, hworth]
    have hnanos : s.nanos = s.count * k * nanosPerSecond := by
      rw [nanos, TimeUnit.nanos, hworth, Nat.mul_assoc]
      rfl
    have hle : s.count ≤ s.count * k := Nat.le_mul_of_pos_right _ (TimeUnit.worth_pos (.inr hworth))
    have hnot : ¬ s.Fills a := fun h => by simp [h.1] at hsub
    by_cases hword : s.count * k < 18446744073709551616
    · have hadd : (ofNanos a).addSpan s.span = (ofNanos a).add (s.count * k) 0 := by
        simp only [Elapsed.addSpan, span, word_of_lt (show s.count < 18446744073709551616 by omega), bind, Except.bind,
          hworth, Elapsed.addWorth, word_of_lt hword]
      rw [hadd, hnanos]
      rcases Elapsed.add_seconds_cases a (s.count * k) with h | h
      · exact .inl h
      · exact .inr (.inr ⟨h.1, hnot, h.2⟩)
    · -- the number of seconds alone is too large
      refine .inr (.inr ⟨?_, hnot, ?_⟩)
      · simp only [hnanos, limit, nanosPerSecond]
        omega
      · by_cases hcount : s.count < 18446744073709551616
        · simp only [Elapsed.addSpan, span, word_of_lt hcount, bind, Except.bind, hworth, Elapsed.addWorth,
            word_of_le (Nat.not_lt.1 hword)]
        · simp only [Elapsed.addSpan, span, word_of_le (Nat.not_lt.1 hcount), bind, Except.bind]

/-- One of the spans fills up the last second of the sum of a number and the spans before it. -/
def FillsUp (a : Nat) (spans : List Spelled) : Prop :=
  ∃ before s after, spans = before ++ s :: after ∧ a + total before < limit ∧ s.Fills (a + total before)

theorem fillsUp_cons {a : Nat} {s : Spelled} {spans : List Spelled} (ha : a < limit) :
    FillsUp a (s :: spans) ↔ s.Fills a ∨ FillsUp (a + s.nanos) spans := by
  constructor
  · rintro ⟨before, t, after, hspans, hbelow, hfills⟩
    cases before with
    | nil =>
      obtain ⟨rfl, rfl⟩ := List.cons.inj hspans
      exact .inl hfills
    | cons r before =>
      obtain ⟨rfl, rfl⟩ := List.cons.inj hspans
      rw [total_cons, ← Nat.add_assoc] at hbelow hfills
      exact .inr ⟨before, t, after, rfl, hbelow, hfills⟩
  · rintro (hfills | ⟨before, t, after, rfl, hbelow, hfills⟩)
    · exact ⟨[], s, spans, rfl, ha, hfills⟩
    · rw [Nat.add_assoc, ← total_cons] at hbelow hfills
      exact ⟨s :: before, t, after, rfl, hbelow, hfills⟩

theorem not_fillsUp_of_limit_le {a : Nat} {spans : List Spelled} (h : limit ≤ a) : ¬ FillsUp a spans := by
  rintro ⟨before, _, _, _, hbelow, _⟩
  omega

theorem not_fills_of_lt {a : Nat} {s : Spelled} (h : a + s.nanos < limit) : ¬ s.Fills a := fun hfills => by
  have := hfills.2.1
  omega

/-- **What adding spans up does**: it gives the exact sum if that fits, and otherwise notices that it does not. -/
theorem ofSpans_cases {spans : List Spelled} (hfits : ∀ s ∈ spans, s.Fits) {a : Nat} (ha : a < limit) :
    (a + total spans < limit ∧ ¬ FillsUp a spans ∧
      (spans.map Spelled.span).foldlM Elapsed.addSpan (ofNanos a) = .ok (ofNanos (a + total spans))) ∨
    (limit ≤ a + total spans ∧ FillsUp a spans ∧
      (spans.map Spelled.span).foldlM Elapsed.addSpan (ofNanos a) = .error .overflow) ∨
    (limit ≤ a + total spans ∧ ¬ FillsUp a spans ∧
      (spans.map Spelled.span).foldlM Elapsed.addSpan (ofNanos a) = .error .unreadable) := by
  induction spans generalizing a with
  | nil =>
    refine .inl ⟨ha, ?_, rfl⟩
    rintro ⟨before, _, _, hnil, _⟩
    simp at hnil
  | cons s spans ih =>
    obtain ⟨hs, hspans⟩ := List.forall_mem_cons.1 hfits
    rw [fillsUp_cons ha, total_cons, ← Nat.add_assoc, List.map_cons, List.foldlM_cons]
    rcases Spelled.addSpan_cases hs ha with ⟨hlt, hadd⟩ | ⟨hfills, hadd⟩ | ⟨hle, hnot, hadd⟩
    · rw [hadd, or_iff_right (not_fills_of_lt hlt)]
      exact ih hspans hlt
    · refine .inr (.inl ⟨?_, .inl hfills, by rw [hadd]; rfl⟩)
      have := hfills.2.1
      omega
    · refine .inr (.inr ⟨by omega, ?_, by rw [hadd]; rfl⟩)
      rw [not_or]
      exact ⟨hnot, not_fillsUp_of_limit_le hle⟩

/-! ## What a text says -/

theorem int64_ofInt_eq_iff {n : Nat} (h : n < 9223372036854775808) {i : Int64} : Int64.ofInt n = i ↔ i.toInt = n := by
  rw [← Int64.toInt_inj, Int64.toInt_ofInt_of_le (by omega) (by omega), eq_comm]

theorem readSpans_spell (spans : List Spelled) {behind : List Char}
    (hbehind : ∀ c ∈ behind, isWhiteSpace c = true) :
    readSpans .between (spell spans behind).toList = ⟨spans.map Spelled.span, true⟩ := by
  rw [spell, String.toList_ofList, readSpans_append_blanks hbehind, readSpans_flatMap]

/-- A spelled text has the letter of a unit in it. -/
theorem exists_letter {spans : List Spelled} (hspans : spans ≠ []) (behind : List Char) :
    ∃ c ∈ (spell spans behind).toList, isUnitLetter c = true := by
  obtain ⟨s, rest, rfl⟩ := List.exists_cons_of_ne_nil hspans
  obtain ⟨_, hne, hletters⟩ := spelling_rules s.unit _ s.spelling_mem
  obtain ⟨u, us, hus⟩ := List.exists_cons_of_ne_nil hne
  refine ⟨u, ?_, hletters u (by simp [hus])⟩
  simp [spell, Spelled.chars, hus]

section
variable {cs : List Char} {spans : List Span} (hread : readSpans .between cs = ⟨spans, true⟩)
include hread

theorem spanSeconds_of_sum (hspans : spans ≠ []) {a : Nat} (h : Elapsed.ofSpans spans = .ok (ofNanos a)) :
    spanSeconds cs = if nanosPerSecond ∣ a ∧ a / nanosPerSecond < 9223372036854775808 then
      .ok ((a / nanosPerSecond : Nat) : Int) else .error .unreadable := by
  simp only [spanSeconds, hread, h, bind, Except.bind, hspans, ne_eq, not_false_eq_true, true_and,
    Nat.dvd_iff_mod_eq_zero]
  rfl

theorem spanSeconds_of_fault {e : Fault} (h : Elapsed.ofSpans spans = .error e) : spanSeconds cs = .error e := by
  simp only [spanSeconds, hread, h, bind, Except.bind]

end

/-- **What spelled spans say**: their exact sum in seconds, if it is whole and 64 bits hold it with a sign. -/
theorem seconds_spell {spans : List Spelled} (hspans : spans ≠ []) (hfits : ∀ s ∈ spans, s.Fits) {behind : List Char}
    (hbehind : ∀ c ∈ behind, isWhiteSpace c = true) :
    (∀ i, seconds (spell spans behind) = .ok i ↔ nanosPerSecond ∣ total spans ∧
      total spans / nanosPerSecond < 9223372036854775808 ∧
      i.toInt = (total spans / nanosPerSecond : Nat)) ∧
    (seconds (spell spans behind) = .error .overflow ↔ FillsUp 0 spans) := by
  obtain ⟨c, hc, hletter⟩ := exists_letter hspans behind
  have hread := readSpans_spell spans hbehind
  have hne : spans.map Spelled.span ≠ [] := by simpa using hspans
  have htoo : limit ≤ total spans → ¬ total spans / nanosPerSecond < 9223372036854775808 := by
    simp only [limit, nanosPerSecond]
    omega
  have hcases := ofSpans_cases hfits (show 0 < limit by decide)
  rw [Nat.zero_add] at hcases
  rw [seconds_of_letter hletter hc]
  rcases hcases with ⟨_, hnot, hsum⟩ | ⟨hle, hfills, hsum⟩ | ⟨hle, hnot, hsum⟩
  · rw [spanSeconds_of_sum hread hne hsum]
    simp only [← and_assoc]
    by_cases hwhole : nanosPerSecond ∣ total spans ∧ total spans / nanosPerSecond < 9223372036854775808
    · rw [if_pos hwhole]
      refine ⟨fun i => ?_, by simp [Except.map, hnot]⟩
      simp only [Except.map, Except.ok.injEq, int64_ofInt_eq_iff hwhole.2, hwhole, and_self, true_and]
    · simp [Except.map, hwhole, hnot]
  · rw [spanSeconds_of_fault hread hsum]
    simp [Except.map, hfills, htoo hle]
  · rw [spanSeconds_of_fault hread hsum]
    simp [Except.map, hnot, htoo hle]

/-! ## Plain numbers -/

/-- The bounds of a signed word are one bound for a natural number. -/
theorem bounded_natCast (n : Nat) :
    ((some (n : Int)).bind fun j => if -9223372036854775808 ≤ j ∧ j < 9223372036854775808 then some j else none) =
      if n < 9223372036854775808 then some (n : Int) else none := by
  have hrange : (-9223372036854775808 ≤ (n : Int) ∧ (n : Int) < 9223372036854775808) ↔ n < 9223372036854775808 := by
    omega
  rw [Option.bind_some]
  by_cases hn : n < 9223372036854775808
  · rw [if_pos hn, if_pos (hrange.2 hn)]
  · rw [if_neg hn, if_neg (mt hrange.1 hn)]

section
variable {ds : List Char} (hne : ds ≠ []) (hds : ∀ c ∈ ds, isDigit c = true)
include hne hds

theorem wholeNumber?_of_digits : wholeNumber? ds =
    if numberOf ds < 9223372036854775808 then some (numberOf ds : Int) else none := by
  have hdigits : (digits? ds).map (fun n => (n : Int)) = some (numberOf ds : Int) := by
    have hall : ds.all isDigit = true := List.all_eq_true.2 hds
    have hsome : ds.isEmpty = false := by simpa using hne
    simp [digits?, hall, hsome, numberOf]
  refine Eq.trans ?_ (bounded_natCast (numberOf ds))
  unfold wholeNumber?
  split
  · cases hds '-' List.mem_cons_self
  · cases hds '+' List.mem_cons_self
  · rw [hdigits]
    rfl

/-- Digits alone are a number of seconds. -/
theorem seconds_of_digits : seconds (String.ofList ds) =
    if numberOf ds < 9223372036854775808 then .ok (Int64.ofInt (numberOf ds)) else .error .unreadable := by
  have htrim : trimBoth isWhiteSpace ds = ds :=
    Text.trimBoth_of_free fun c hc => not_isWhiteSpace_of_isDigit (hds c hc)
  have hspans : spanSeconds ds = .error .unreadable := by
    obtain ⟨d, rest, rfl⟩ := List.exists_cons_of_ne_nil hne
    obtain ⟨hd, hrest⟩ := List.forall_mem_cons.1 hds
    have hread : readSpans .between (d :: rest) = .stop false := by
      rw [readSpans, if_pos hd, ← List.append_nil rest, readSpans_digits hrest, readSpans]
    rw [spanSeconds, hread]
    rfl
  simp only [seconds, String.toList_ofList, htrim, wholeNumber?_of_digits hne hds]
  by_cases hn : numberOf ds < 9223372036854775808
  · rw [if_pos hn, if_pos hn]
    exact if_pos (Int.natCast_nonneg _)
  · rw [if_neg hn, if_neg hn, hspans]
    rfl

/-- The span that digits and the letter for seconds spell. -/
def inSeconds : Spelled where
  before := []
  digits := ds
  between := []
  unit := .second
  spelling := "s"
  before_blank := nofun
  digits_ne_nil := hne
  digits_digit := hds
  between_blank := nofun
  spelling_mem := by decide

/-- A plain number says the same as with the letter for seconds behind it. -/
theorem seconds_of_digits_eq : seconds (String.ofList ds) = seconds (String.ofList (ds ++ ['s'])) := by
  have hspell : spell [inSeconds hne hds] [] = String.ofList (ds ++ ['s']) := by
    simp [spell, Spelled.chars, inSeconds]
  have htotal : total [inSeconds hne hds] = numberOf ds * nanosPerSecond := by
    have hsecond : TimeUnit.second.nanos = nanosPerSecond := by decide
    rw [total_cons, total_nil, Nat.add_zero, ← hsecond]
    rfl
  have hfits : ∀ s ∈ [inSeconds hne hds], s.Fits := by
    rintro _ (_ | ⟨_, ⟨⟩⟩) hsub
    cases hsub
  have hbehind : ∀ c ∈ ([] : List Char), isWhiteSpace c = true := nofun
  have hwhole : nanosPerSecond ∣ numberOf ds * nanosPerSecond := Nat.dvd_mul_left _ _
  have hseconds : numberOf ds * nanosPerSecond / nanosPerSecond = numberOf ds := Nat.mul_div_cancel _ (by decide)
  obtain ⟨hok, hoverflow⟩ := seconds_spell (by simp) hfits hbehind
  rw [hspell] at hoverflow
  simp only [hspell, htotal, hwhole, hseconds, true_and] at hok
  rw [seconds_of_digits hne hds]
  by_cases hn : numberOf ds < 9223372036854775808
  · rw [if_pos hn]
    exact ((hok _).2 ⟨hn, (int64_ofInt_eq_iff hn).1 rfl⟩).symm
  · rw [if_neg hn]
    cases hseconds : seconds (String.ofList (ds ++ ['s'])) with
    | ok i => exact absurd ((hok i).1 hseconds).1 hn
    | error e =>
      cases e with
      | unreadable => rfl
      | overflow =>
        -- a second is no part of a second
        obtain ⟨before, s, after, hs, _, hfills⟩ := hoverflow.1 hseconds
        have hmem : s ∈ [inSeconds hne hds] := hs ▸ List.mem_append_cons_self
        rw [List.mem_singleton.1 hmem] at hfills
        cases hfills.1

end

/-! ## No text says a negative number -/

theorem wholeNumber?_range {cs : List Char} {i : Int} (h : wholeNumber? cs = some i) :
    -9223372036854775808 ≤ i ∧ i < 9223372036854775808 := by
  have hbounded : ∀ o : Option Int, (o.bind fun j =>
      if -9223372036854775808 ≤ j ∧ j < 9223372036854775808 then some j else none) = some i →
      -9223372036854775808 ≤ i ∧ i < 9223372036854775808 := by
    intro o ho
    obtain ⟨j, _, hj⟩ := Option.bind_eq_some_iff.1 ho
    split at hj
    · rename_i hrange
      cases hj
      exact hrange
    · cases hj
  unfold wholeNumber? at h
  split at h <;> exact hbounded _ h

theorem spanSeconds_range {cs : List Char} {i : Int} (h : spanSeconds cs = .ok i) :
    0 ≤ i ∧ i < 9223372036854775808 := by
  unfold spanSeconds at h
  cases hsum : Elapsed.ofSpans (readSpans .between cs).spans with
  | error e =>
    simp only [hsum, bind, Except.bind] at h
    cases h
  | ok t =>
    simp only [hsum, bind, Except.bind] at h
    split at h
    · rename_i hwhole
      cases h
      have := hwhole.2.2.2
      omega
    · cases h

theorem nonneg_of_seconds {text : String} {i : Int64} (h : seconds text = .ok i) : 0 ≤ i.toInt := by
  unfold seconds at h
  simp only at h
  split at h
  · rename_i j hj
    obtain ⟨_, hhigh⟩ := wholeNumber?_range hj
    split at h
    · rename_i hpos
      cases h
      rw [Int64.toInt_ofInt_of_le (by omega) (by omega)]
      exact hpos
    · cases h
  · cases hspans : spanSeconds (trimBoth isWhiteSpace text.toList) with
    | error e =>
      rw [hspans] at h
      cases h
    | ok j =>
      obtain ⟨hpos, hhigh⟩ := spanSeconds_range hspans
      rw [hspans] at h
      cases h
      rw [Int64.toInt_ofInt_of_le (by omega) (by omega)]
      exact hpos

/-! ## All spellings -/

/-- Spans that come to the same say the same, in whatever order and with whatever blanks. -/
theorem seconds_spell_congr {spans spans' : List Spelled} (hspans : spans ≠ []) (hspans' : spans' ≠ [])
    (hfits : ∀ s ∈ spans, s.Fits) (hfits' : ∀ s ∈ spans', s.Fits) {behind behind' : List Char}
    (hbehind : ∀ c ∈ behind, isWhiteSpace c = true) (hbehind' : ∀ c ∈ behind', isWhiteSpace c = true)
    (htotal : total spans = total spans') (hfills : FillsUp 0 spans ↔ FillsUp 0 spans') :
    seconds (spell spans behind) = seconds (spell spans' behind') := by
  obtain ⟨hok, hoverflow⟩ := seconds_spell hspans hfits hbehind
  obtain ⟨hok', hoverflow'⟩ := seconds_spell hspans' hfits' hbehind'
  have hiff : ∀ i, seconds (spell spans behind) = .ok i ↔ seconds (spell spans' behind') = .ok i := by
    intro i
    rw [hok, hok', htotal]
  have hfault : seconds (spell spans behind) = .error .overflow ↔ seconds (spell spans' behind') = .error .overflow := by
    rw [hoverflow, hoverflow', hfills]
  cases h : seconds (spell spans' behind') with
  | ok i => exact (hiff i).2 h
  | error e =>
    cases e with
    | overflow => exact hfault.2 h
    | unreadable =>
      cases h' : seconds (spell spans behind) with
      | ok i =>
        rw [(hiff i).1 h'] at h
        cases h
      | error e =>
        cases e with
        | unreadable => rfl
        | overflow =>
          rw [hfault.1 h'] at h
          cases h

/-- **All spellings of a duration agree**: what a text of spans says depends on their exact sum alone, and it is that
sum, if it is whole seconds and 64 bits hold them with a sign. Every other text of spans says nothing, but for one that
fills up the last second that 64 bits hold, which is an overflow. Digits alone say what they say as seconds, and no
text at all says a negative number. -/
theorem seconds_spelled (text : String) :
    (∀ (spans : List Spelled) (behind : List Char), text = spell spans behind → spans ≠ [] → (∀ s ∈ spans, s.Fits) →
      (∀ c ∈ behind, isWhiteSpace c = true) →
      (∀ i, seconds text = .ok i ↔
        1000000000 ∣ total spans ∧ total spans / 1000000000 ≤ 9223372036854775807 ∧
          i.toInt = (total spans / 1000000000 : Nat)) ∧
      (seconds text = .error .overflow ↔ FillsUp 0 spans) ∧
      ∀ (spans' : List Spelled) (behind' : List Char), spans' ≠ [] → (∀ s ∈ spans', s.Fits) →
        (∀ c ∈ behind', isWhiteSpace c = true) → total spans = total spans' →
        (FillsUp 0 spans ↔ FillsUp 0 spans') → seconds text = seconds (spell spans' behind')) ∧
    (text.toList ≠ [] → (∀ c ∈ text.toList, isDigit c = true) → seconds text = seconds (text ++ "s")) ∧
    ∀ i, seconds text = .ok i → 0 ≤ i.toInt := by
  refine ⟨?_, fun hne hdigits => ?_, fun _ => nonneg_of_seconds⟩
  · rintro spans behind rfl hspans hfits hbehind
    obtain ⟨hok, hoverflow⟩ := seconds_spell hspans hfits hbehind
    refine ⟨fun i => ?_, hoverflow, fun spans' behind' hspans' hfits' hbehind' =>
      seconds_spell_congr hspans hspans' hfits hfits' hbehind hbehind'⟩
    rw [hok, ← Nat.lt_succ_iff (n := 9223372036854775807)]
    rfl
  · have hunit : text ++ "s" = String.ofList (text.toList ++ ['s']) := by simp
    rw [hunit, ← seconds_of_digits_eq hne hdigits, String.ofList_toList]

/-- A span of milliseconds with a blank before it. -/
def inMilliseconds {ds : List Char} (hne : ds ≠ []) (hds : ∀ c ∈ ds, isDigit c = true) : Spelled where
  before := [' ']
  digits := ds
  between := []
  unit := .millisecond
  spelling := "ms"
  before_blank := List.all_eq_true.1 (by decide)
  digits_ne_nil := hne
  digits_digit := hds
  between_blank := nofun
  spelling_mem := by decide

theorem seconds_spelled_two : seconds " 1500ms 500ms" = .ok 2 := by
  have hspell : spell [inMilliseconds (show "1500".toList ≠ [] by decide) (List.all_eq_true.1 (by decide)),
      inMilliseconds (show "500".toList ≠ [] by decide) (List.all_eq_true.1 (by decide))] [] =
      " 1500ms 500ms" := by decide
  exact (((seconds_spelled _).1 _ [] hspell.symm (by simp) (by decide) nofun).1 2).2 (by decide)

/-- A second of milliseconds fills up the last second behind the largest number of seconds: the text is no number, and
it is not refused as one either. In the other order it is. -/
theorem seconds_spelled_overflowing : ∃ spans : List Spelled, spans ≠ [] ∧ (∀ s ∈ spans, s.Fits) ∧
    spell spans [] = "18446744073709551615s 1000ms" ∧ ¬ total spans / 1000000000 ≤ 9223372036854775807 ∧
    seconds "18446744073709551615s 1000ms" = .error .overflow ∧
    spell spans.reverse [] = " 1000ms18446744073709551615s" ∧
    seconds " 1000ms18446744073709551615s" = .error .unreadable :=
  ⟨[inSeconds (show "18446744073709551615".toList ≠ [] by decide) (List.all_eq_true.1 (by decide)),
    inMilliseconds (show "1000".toList ≠ [] by decide) (List.all_eq_true.1 (by decide))],
    by simp, by decide, by decide, by decide, by decide +kernel, by decide, by decide +kernel⟩

end Duration

end Converge
