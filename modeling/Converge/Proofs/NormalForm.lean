import Converge.Field.Rule
import Mathlib.Data.List.DropRight

/-!
# Normal forms

A normalizer is *lawful* if the form of a value is its own form and overflows no more than the value
did. All four normalizers of the library are: `Normalizer.lawful_of_mem_library`. For lower case this
rests on the case data: no run of the table maps into a run (`caseRuns_avoid`), so that a character that
was lowered stays as it is, and none of them is a capital sigma, so that the context does not matter the
second time.
-/

namespace Converge

/-! ## Lower case -/

namespace Text

def CaseRun.image (r : CaseRun) (n : Nat) : Nat := ((n : Int) + r.shift).toNat

/-- Every image of the run `r` lies outside of the run `s`: below it, above it, or between its steps. -/
def CaseRun.avoids (r s : CaseRun) : Bool :=
  Nat.blt (r.image r.last) s.first || Nat.blt s.last (r.image r.first) ||
    (Nat.beq s.step 2 && (Nat.beq r.step 2 || Nat.beq r.first r.last) &&
      Nat.blt 0 (r.image r.first) && Nat.beq ((r.image r.first + s.first) % 2) 1)

theorem not_holds_of_avoids {r s : CaseRun} {n : Nat} (h : r.avoids s = true) (hn : r.holds n = true) :
    s.holds (r.image n) = false := by
  unfold CaseRun.avoids CaseRun.image at h
  unfold CaseRun.holds at hn
  unfold CaseRun.holds CaseRun.image
  simp only [Bool.or_eq_true, Bool.and_eq_true, Nat.blt_eq, Nat.beq_eq] at h
  simp only [decide_eq_true_eq] at hn
  obtain ⟨h1, h2, h3⟩ := hn
  rw [decide_eq_false_iff_not]
  rintro ⟨g1, g2, g3⟩
  rcases h with (h | h) | ⟨⟨⟨hs, hr⟩, h0⟩, hp⟩
  · omega
  · omega
  · rw [hs] at g3
    rcases hr with hr | hr
    · rw [hr] at h3
      omega
    · omega

/-- The characters that lower-casing puts in other ways than by the runs of the table. -/
def unruledImages : List Char := [Char.ofNat 0, 'i', '\u0307', 'ς', 'σ']

theorem caseRuns_omit_unruledImages :
    (unruledImages.all fun c => c != '\u0130' && (caseRuns.find? (·.holds c.toNat)).isNone) = true := by
  decide +kernel

theorem caseRuns_hold_sigma : (caseRuns.find? (·.holds 'Σ'.toNat)).isSome = true := by
  decide +kernel

/-- No image of the table is the dotted capital I, which has a form of two characters. -/
theorem caseRuns_avoid_dottedI : (caseRuns.all fun r => r.avoids ⟨304, 304, 1, 0⟩) = true := by
  decide +kernel

theorem caseRuns_avoid : (caseRuns.all fun r => caseRuns.all fun s => r.avoids s) = true := by
  decide +kernel

/-- A character that lower-casing leaves alone, wherever it stands. -/
def IsLowered (c : Char) : Prop := c ≠ 'Σ' ∧ lowerChar c = [c]

theorem lowerChar_eq_self {c : Char} (hi : c ≠ '\u0130')
    (h : caseRuns.find? (·.holds c.toNat) = none) : lowerChar c = [c] := by
  unfold lowerChar lowerCodePoint
  simp [hi, h]

/-- A code point outside of every run is lowered, and the capital sigma is inside of one. -/
theorem isLowered_of_outside {c : Char} (hi : c ≠ '\u0130')
    (h : caseRuns.find? (·.holds c.toNat) = none) : IsLowered c := by
  refine ⟨?_, lowerChar_eq_self hi h⟩
  rintro rfl
  have hsigma := caseRuns_hold_sigma
  rw [h] at hsigma
  cases hsigma

theorem isLowered_of_unruledImage {c : Char} (hc : c ∈ unruledImages) : IsLowered c := by
  have h := List.all_eq_true.1 caseRuns_omit_unruledImages c hc
  rw [Bool.and_eq_true, bne_iff_ne, Option.isNone_iff_eq_none] at h
  exact isLowered_of_outside h.1 h.2

theorem find?_image_eq_none {r : CaseRun} {n : Nat} (hr : r ∈ caseRuns) (hn : r.holds n = true) :
    caseRuns.find? (·.holds (r.image n)) = none := by
  rw [List.find?_eq_none]
  intro s hs
  have hrs := List.all_eq_true.1 (List.all_eq_true.1 caseRuns_avoid r hr) s hs
  simp [not_holds_of_avoids hrs hn]

theorem isLowered_image {r : CaseRun} {n : Nat} (hr : r ∈ caseRuns) (hn : r.holds n = true) :
    IsLowered (Char.ofNat (r.image n)) := by
  by_cases hv : (r.image n).isValidChar
  · have hto : (Char.ofNat (r.image n)).toNat = r.image n := by
      unfold Char.ofNat
      rw [dif_pos hv]
      rfl
    refine isLowered_of_outside ?_ (by rw [hto]; exact find?_image_eq_none hr hn)
    intro he
    have hd := not_holds_of_avoids (List.all_eq_true.1 caseRuns_avoid_dottedI r hr) hn
    rw [← hto, he] at hd
    revert hd
    decide
  · have h0 : Char.ofNat (r.image n) = Char.ofNat 0 := by
      unfold Char.ofNat
      rw [dif_neg hv]
      rfl
    rw [h0]
    exact isLowered_of_unruledImage (by decide)

theorem isLowered_of_mem_lowerChar {c d : Char} (hs : c ≠ 'Σ') (hd : d ∈ lowerChar c) : IsLowered d := by
  by_cases hi : c = '\u0130'
  · subst hi
    have hd' : d = 'i' ∨ d = '\u0307' := by simpa [lowerChar] using hd
    rcases hd' with rfl | rfl
    · exact isLowered_of_unruledImage (by decide)
    · exact isLowered_of_unruledImage (by decide)
  · cases hf : caseRuns.find? (·.holds c.toNat) with
    | none =>
      rw [lowerChar_eq_self hi hf] at hd
      rw [List.mem_singleton.1 hd]
      exact ⟨hs, lowerChar_eq_self hi hf⟩
    | some r =>
      have hc : lowerChar c = [Char.ofNat (r.image c.toNat)] := by
        simp [lowerChar, lowerCodePoint, hi, hf, CaseRun.image]
      rw [hc] at hd
      rw [List.mem_singleton.1 hd]
      exact isLowered_image (List.mem_of_find?_eq_some hf) (by simpa using List.find?_some hf)

theorem isLowered_of_mem_lowerFrom {d : Char} (before cs : List Char) (hd : d ∈ lowerFrom before cs) :
    IsLowered d := by
  induction cs generalizing before with
  | nil => simp [lowerFrom] at hd
  | cons c cs ih =>
    simp only [lowerFrom, List.mem_append] at hd
    rcases hd with hd | hd
    · split at hd
      · have hd' : d = 'ς' ∨ d = 'σ' := by
          split at hd
          · exact .inl (List.mem_singleton.1 hd)
          · exact .inr (List.mem_singleton.1 hd)
        rcases hd' with rfl | rfl
        · exact isLowered_of_unruledImage (by decide)
        · exact isLowered_of_unruledImage (by decide)
      · exact isLowered_of_mem_lowerChar ‹_› hd
    · exact ih _ hd

theorem lowerFrom_eq_self (before : List Char) {cs : List Char} (h : ∀ c ∈ cs, IsLowered c) :
    lowerFrom before cs = cs := by
  induction cs generalizing before with
  | nil => rfl
  | cons c cs ih =>
    obtain ⟨hs, hc⟩ := h c List.mem_cons_self
    simp only [lowerFrom, if_neg hs, hc]
    rw [ih _ fun d hd => h d (List.mem_cons_of_mem _ hd)]
    rfl

/-- **Lower-casing a text twice is lower-casing it once**, final sigmas included. -/
theorem lowerCase_lowerCase (s : String) : lowerCase (lowerCase s) = lowerCase s := by
  have h : lowerFrom [] (lowerFrom [] s.toList) = lowerFrom [] s.toList :=
    lowerFrom_eq_self [] fun c hc => isLowered_of_mem_lowerFrom [] _ hc
  simp [lowerCase, h]

end Text

/-! ## Trimming -/

namespace Text

theorem dropWhile_eq_self_of_front {p : Char → Bool} {l m : List Char} (h : m <+: l.dropWhile p) :
    m.dropWhile p = m := by
  cases m with
  | nil => rfl
  | cons c m =>
    obtain ⟨t, ht⟩ := h
    have hc : ¬ p c = true := by
      have hne : l.dropWhile p ≠ [] := by simp [← ht]
      have := List.head_dropWhile_not p hne
      simpa [← ht] using this
    simp [List.dropWhile, hc]

theorem trimBoth_trimBoth (p : Char → Bool) (cs : List Char) :
    trimBoth p (trimBoth p cs) = trimBoth p cs := by
  show List.rdropWhile p ((List.rdropWhile p (cs.dropWhile p)).dropWhile p) =
    List.rdropWhile p (cs.dropWhile p)
  have hfront := List.rdropWhile_prefix p (cs.dropWhile p)
  rw [dropWhile_eq_self_of_front hfront, List.rdropWhile_idempotent]

/-- Trimming takes nothing away but characters of the class. -/
theorem exists_append_trimBoth (p : Char → Bool) (cs : List Char) :
    ∃ front back, cs = front ++ trimBoth p cs ++ back ∧ (∀ c ∈ front, p c = true) ∧ ∀ c ∈ back, p c = true := by
  have hback : (cs.dropWhile p).reverse =
      (cs.dropWhile p).reverse.takeWhile p ++ (cs.dropWhile p).reverse.dropWhile p :=
    List.takeWhile_append_dropWhile.symm
  refine ⟨cs.takeWhile p, ((cs.dropWhile p).reverse.takeWhile p).reverse, ?_, ?_, ?_⟩
  · calc cs
      _ = cs.takeWhile p ++ cs.dropWhile p := List.takeWhile_append_dropWhile.symm
      _ = cs.takeWhile p ++ (trimBoth p cs ++ ((cs.dropWhile p).reverse.takeWhile p).reverse) := by
        rw [trimBoth, ← List.reverse_append, ← hback, List.reverse_reverse]
      _ = _ := (List.append_assoc _ _ _).symm
  · exact fun c hc => List.mem_takeWhile_imp hc
  · exact fun c hc => List.mem_takeWhile_imp (List.mem_reverse.1 hc)

/-- A text without characters of the class is not trimmed. -/
theorem trimBoth_of_free {p : Char → Bool} {cs : List Char} (h : ∀ c ∈ cs, p c = false) :
    trimBoth p cs = cs := by
  obtain ⟨front, back, hcs, hfront, hback⟩ := exists_append_trimBoth p cs
  have hempty : ∀ l : List Char, (∀ c ∈ l, c ∈ cs) → (∀ c ∈ l, p c = true) → l = [] := by
    intro l hmem hl
    refine List.eq_nil_iff_forall_not_mem.2 fun c hc => ?_
    have hfree := h c (hmem c hc)
    rw [hl c hc] at hfree
    cases hfree
  have hnofront : front = [] := hempty front (fun c hc => by rw [hcs]; simp [hc]) hfront
  have hnoback : back = [] := hempty back (fun c hc => by rw [hcs]; simp [hc]) hback
  simpa [hnofront, hnoback] using hcs.symm

/-- A text that is trimmed stays so with a character behind it that is not of the class. -/
theorem trimBoth_concat {p : Char → Bool} {cs : List Char} {c : Char} (h : trimBoth p cs = cs) (hne : cs ≠ [])
    (hc : p c = false) : trimBoth p (cs ++ [c]) = cs ++ [c] := by
  have hprefix : cs <+: cs.dropWhile p := by
    have htrim : (cs.dropWhile p).rdropWhile p <+: cs.dropWhile p := List.rdropWhile_prefix p _
    rwa [show (cs.dropWhile p).rdropWhile p = cs from h] at htrim
  have hfront : cs.dropWhile p = cs := dropWhile_eq_self_of_front hprefix
  have hends : (cs ++ [c]).dropWhile p = cs ++ [c] := by
    obtain ⟨d, ds, rfl⟩ := List.exists_cons_of_ne_nil hne
    by_cases hd : p d = true
    · have hshorter := (List.dropWhile_suffix p (l := ds)).length_le
      rw [List.dropWhile_cons_of_pos hd] at hfront
      rw [hfront, List.length_cons] at hshorter
      omega
    · rw [List.cons_append, List.dropWhile_cons_of_neg hd]
  exact (congrArg (List.rdropWhile p) hends).trans (List.rdropWhile_concat_neg _ _ _ (by simp [hc]))

end Text

namespace Normalizer

theorem withoutSlashes_withoutSlashes (s : String) :
    withoutSlashes (withoutSlashes s) = withoutSlashes s := by
  simp [withoutSlashes, Text.trimBoth_trimBoth]

/-! ## Sets -/

theorem mem_insertSorted {x y : String} {l : List String} : y ∈ insertSorted x l ↔ y = x ∨ y ∈ l := by
  induction l with
  | nil => simp [insertSorted]
  | cons z l ih =>
    simp only [insertSorted]
    split
    · simp
    · split
      · rename_i h
        subst h
        simp
      · simp only [List.mem_cons, ih]
        exact or_left_comm

theorem pairwise_insertSorted {x : String} {l : List String} (h : l.Pairwise (· < ·)) :
    (insertSorted x l).Pairwise (· < ·) := by
  induction l with
  | nil => simp [insertSorted]
  | cons y l ih =>
    obtain ⟨hy, hl⟩ := List.pairwise_cons.1 h
    simp only [insertSorted]
    split
    · rename_i hlt
      refine List.pairwise_cons.2 ⟨fun z hz => ?_, h⟩
      rcases List.mem_cons.1 hz with rfl | hz
      · exact hlt
      · exact String.lt_trans hlt (hy z hz)
    · split
      · exact h
      · rename_i hle hne
        refine List.pairwise_cons.2 ⟨fun z hz => ?_, ih hl⟩
        rcases mem_insertSorted.1 hz with rfl | hz
        · by_cases hlt : y < z
          · exact hlt
          · exact absurd (String.le_antisymm (String.not_lt.1 hlt) (String.not_lt.1 hle)) hne
        · exact hy z hz

theorem pairwise_sortedSet (xs : List String) : (sortedSet xs).Pairwise (· < ·) := by
  induction xs with
  | nil => exact List.Pairwise.nil
  | cons x xs ih => exact pairwise_insertSorted ih

/-- An increasing list is its own set. -/
theorem sortedSet_eq_self {xs : List String} (h : xs.Pairwise (· < ·)) : sortedSet xs = xs := by
  induction xs with
  | nil => rfl
  | cons x xs ih =>
    obtain ⟨hx, hxs⟩ := List.pairwise_cons.1 h
    have hstep : sortedSet (x :: xs) = insertSorted x (sortedSet xs) := rfl
    rw [hstep, ih hxs]
    cases xs with
    | nil => rfl
    | cons y ys => simp [insertSorted, hx y List.mem_cons_self]

theorem sortedSet_sortedSet (xs : List String) : sortedSet (sortedSet xs) = sortedSet xs :=
  sortedSet_eq_self (pairwise_sortedSet xs)

/-! ## Lawful normalizers -/

/-- Forms are their own forms, and the form of a value overflows just as the value does. -/
structure Lawful (n : Normalizer) : Prop where
  form_form : ∀ v, n (n v) = n v
  overflows_form : ∀ v, n.overflows (n v) = true → n.overflows v = true

def library : List Normalizer := [durationSeconds, caseFold, trimSlashes, unordered]

theorem durationSeconds_lawful : durationSeconds.Lawful := by
  have hform : ∀ s, durationSeconds (.string s) = .string s ∨ ∃ n, durationSeconds (.string s) = .int n := by
    intro s
    cases h : Duration.seconds s with
    | ok n => exact .inr ⟨n, by simp [durationSeconds, h]⟩
    | error e => exact .inl (by simp [durationSeconds, h])
  constructor
  · intro v
    cases v with
    | string s =>
      rcases hform s with h | ⟨n, h⟩
      · rw [h, h]
      · rw [h]
        rfl
    | _ => rfl
  · intro v
    cases v with
    | string s =>
      rcases hform s with h | ⟨n, h⟩
      · rw [h]
        exact id
      · rw [h]
        simp [durationSeconds]
    | _ => exact id

theorem caseFold_lawful : caseFold.Lawful := by
  refine ⟨fun v => ?_, fun v h => by simp [caseFold] at h⟩
  cases v with
  | string s => simp [caseFold, Text.lowerCase_lowerCase]
  | _ => rfl

theorem trimSlashes_lawful : trimSlashes.Lawful := by
  refine ⟨fun v => ?_, fun v h => by simp [trimSlashes] at h⟩
  cases v with
  | string s => simp [trimSlashes, withoutSlashes_withoutSlashes]
  | _ => rfl

theorem unordered_lawful : unordered.Lawful := by
  refine ⟨fun v => ?_, fun v h => by simp [unordered] at h⟩
  cases v with
  | list xs => simp [unordered, sortedSet_sortedSet]
  | _ => rfl

theorem lawful_of_mem_library {n : Normalizer} (h : n ∈ library) : n.Lawful := by
  simp only [library, List.mem_cons, List.not_mem_nil, or_false] at h
  rcases h with rfl | rfl | rfl | rfl
  · exact durationSeconds_lawful
  · exact caseFold_lawful
  · exact trimSlashes_lawful
  · exact unordered_lawful

end Normalizer

end Converge
