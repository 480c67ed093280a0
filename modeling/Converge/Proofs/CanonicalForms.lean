import Converge.Proofs.ByteOrder
import Converge.Proofs.NormalForm
import Mathlib.Data.List.Destutter
import Mathlib.Data.List.Sort

/-!
# Normalizers give canonical forms

Comparing two values by their forms is right only if the form of a value is its own form and if two values with one
form are spellings of the same thing. For a list of strings the form stands for the set of its strings
(`Normalizer.sortedSet_eq_iff`), for a path for what is between the slashes at its ends
(`Normalizer.withoutSlashes_eq_iff`). Only the texts that overflow as a duration have no form
(`Normalizer.durationSeconds_canonical_iff`). Main theorem: `Normalizer.library_canonical`.
-/

namespace Converge

namespace Text

/-- What is of the class at the ends of a text does not matter to trimming. -/
theorem trimBoth_append {p : Char → Bool} {front back : List Char} (hfront : ∀ c ∈ front, p c = true)
    (hback : ∀ c ∈ back, p c = true) (cs : List Char) : trimBoth p (front ++ cs ++ back) = trimBoth p cs := by
  have hback' : ∀ c ∈ back.reverse, p c = true := fun c hc => hback c (List.mem_reverse.1 hc)
  unfold trimBoth
  rw [List.append_assoc, List.dropWhile_append_of_pos hfront, List.dropWhile_append]
  cases hcs : cs.dropWhile p with
  | nil => simp [List.dropWhile_eq_nil_iff.2 hback]
  | cons c rest =>
    rw [List.isEmpty_cons, if_neg (by simp), List.reverse_append, List.dropWhile_append_of_pos hback']

end Text

namespace Normalizer

/-- The form of a value is computed, and it is this one. -/
structure Gives (n : Normalizer) (v w : FieldValue) : Prop where
  computes : n.overflows v = false
  form : n v = w

/-- The form of a value is its own form, and the value itself if that has another type than this one. -/
structure Canonical (n : Normalizer) (t : FieldType) (v w : FieldValue) : Prop extends n.Gives v w where
  idempotent : n.Gives w w
  elsewhere : v.type ≠ t → w = v

theorem Gives.unique {n : Normalizer} {v w w' : FieldValue} (h : n.Gives v w) (h' : n.Gives v w') : w = w' :=
  h.form.symm.trans h'.form

theorem Lawful.gives_self {n : Normalizer} (hn : n.Lawful) {v w : FieldValue} (h : n.Gives v w) : n.Gives w w := by
  obtain ⟨hv, rfl⟩ := h
  refine ⟨Bool.eq_false_iff.2 fun hw => ?_, hn.form_form v⟩
  rw [hn.overflows_form v hw] at hv
  cases hv

/-! ## Durations -/

/-- What becomes of a value that may be a duration: a text that says whole seconds becomes their number, and every other
value stays as it is. -/
inductive DurationForm : FieldValue → FieldValue → Prop
  | seconds {s : String} {i : Int64} (h : Duration.seconds s = .ok i) : DurationForm (.string s) (.int i)
  | text {s : String} (h : ∀ i, Duration.seconds s ≠ .ok i) : DurationForm (.string s) (.string s)
  | other {v : FieldValue} (h : v.type ≠ .string) : DurationForm v v

/-- The value is a text that overflows as a duration. -/
def OverflowingText (v : FieldValue) : Prop := ∃ s, v = .string s ∧ Duration.seconds s = .error .overflow

section
variable {s : String} {v w : FieldValue}

theorem durationSeconds_of_ok {i : Int64} (h : Duration.seconds s = .ok i) :
    durationSeconds.Gives (.string s) (.int i) := by
  constructor
  · simp only [durationSeconds, Duration.overflows, h]
  · simp only [durationSeconds, h]

theorem durationSeconds_of_unreadable (h : Duration.seconds s = .error .unreadable) :
    durationSeconds.Gives (.string s) (.string s) := by
  constructor
  · simp only [durationSeconds, Duration.overflows, h]
  · simp only [durationSeconds, h]

theorem OverflowingText.not_gives (hv : OverflowingText v) : ¬ durationSeconds.Gives v w := by
  obtain ⟨s, rfl, hs⟩ := hv
  rintro ⟨hcomputes, _⟩
  simp only [durationSeconds, Duration.overflows, hs] at hcomputes
  cases hcomputes

theorem DurationForm.gives (h : DurationForm v w) (hv : ¬ OverflowingText v) : durationSeconds.Gives v w := by
  cases h with
  | seconds h => exact durationSeconds_of_ok h
  | @text s h =>
    cases hs : Duration.seconds s with
    | ok i => exact absurd hs (h i)
    | error e =>
      cases e with
      | unreadable => exact durationSeconds_of_unreadable hs
      | overflow => exact absurd ⟨s, rfl, hs⟩ hv
  | other h =>
    cases v with
    | string s => exact absurd rfl h
    | _ => exact ⟨rfl, rfl⟩

theorem exists_durationForm (v : FieldValue) : ∃ w, DurationForm v w := by
  cases v with
  | string s =>
    cases hs : Duration.seconds s with
    | ok i => exact ⟨.int i, .seconds hs⟩
    | error e => exact ⟨.string s, .text fun i hi => by rw [hs] at hi; cases hi⟩
  | _ => exact ⟨_, .other nofun⟩

theorem DurationForm.eq_self (h : DurationForm v w) (hv : v.type ≠ .string) : w = v := by
  cases h with
  | seconds | text => exact absurd rfl hv
  | other => rfl

/-- **The only values without a form are the texts that overflow as a duration.** -/
theorem durationSeconds_canonical_iff :
    (∃ w, durationSeconds.Canonical .string v w ∧ DurationForm v w) ↔ ¬ OverflowingText v := by
  constructor
  · rintro ⟨_, hw, _⟩ hv
    exact hv.not_gives hw.toGives
  · intro hv
    obtain ⟨w, hw⟩ := exists_durationForm v
    have hgives := hw.gives hv
    exact ⟨w, ⟨hgives, durationSeconds_lawful.gives_self hgives, hw.eq_self⟩, hw⟩

end

/-! ## Lists as sets -/

theorem mem_sortedSet {x : String} {xs : List String} : x ∈ sortedSet xs ↔ x ∈ xs := by
  induction xs with
  | nil => exact Iff.rfl
  | cons y ys ih =>
    have hstep : sortedSet (y :: ys) = insertSorted y (sortedSet ys) := rfl
    rw [hstep, mem_insertSorted, ih, List.mem_cons]

/-- **Two lists have one form exactly if they hold the same strings.** -/
theorem sortedSet_eq_iff {xs ys : List String} : sortedSet xs = sortedSet ys ↔ ∀ x, x ∈ xs ↔ x ∈ ys := by
  constructor
  · intro h x
    rw [← mem_sortedSet, h, mem_sortedSet]
  · intro h
    refine (pairwise_sortedSet xs).eq_of_mem_iff (pairwise_sortedSet ys) fun x => ?_
    rw [mem_sortedSet, mem_sortedSet, h]

/-- The set of a list is what is left of it when it is sorted and of equal strings side by side one is kept. -/
theorem sortedSet_eq_destutter (xs : List String) :
    sortedSet xs = (xs.mergeSort fun x y => x ≤ y).destutter (· ≠ ·) := by
  have hsorted : (xs.mergeSort fun x y => x ≤ y).Pairwise (· ≤ ·) := List.pairwise_mergeSort' _ xs
  rw [hsorted.destutter_eq_dedup]
  have hincreasing : (xs.mergeSort fun x y => x ≤ y).dedup.Pairwise (· < ·) :=
    ((hsorted.sublist (List.dedup_sublist _)).and (List.nodup_dedup _)).imp fun h => lt_of_le_of_ne h.1 h.2
  refine (pairwise_sortedSet xs).eq_of_mem_iff hincreasing fun x => ?_
  rw [mem_sortedSet, List.mem_dedup, List.mem_mergeSort]

theorem pairwise_bytes_sortedSet (xs : List String) :
    (sortedSet xs).Pairwise fun x y => Text.bytes x < Text.bytes y :=
  (pairwise_sortedSet xs).imp Text.lt_iff_bytes_lt.1

/-! ## Slashes at the ends -/

def slashes (n : Nat) : String := String.ofList (List.replicate n '/')

/-- The texts are the same but for slashes at their ends. -/
def SameButSlashes (s t : String) : Prop :=
  ∃ core i j k l, s = slashes i ++ core ++ slashes j ∧ t = slashes k ++ core ++ slashes l

theorem withoutSlashes_slashes (core : String) (i j : Nat) :
    withoutSlashes (slashes i ++ core ++ slashes j) = withoutSlashes core := by
  have hslashes : ∀ n, ∀ c ∈ List.replicate n '/', decide (c = '/') = true :=
    fun n c hc => decide_eq_true (List.eq_of_mem_replicate hc)
  simp only [withoutSlashes, slashes, String.toList_append, String.toList_ofList]
  rw [Text.trimBoth_append (hslashes i) (hslashes j)]

theorem exists_slashes (s : String) : ∃ i j, s = slashes i ++ withoutSlashes s ++ slashes j := by
  obtain ⟨front, back, hs, hfront, hback⟩ := Text.exists_append_trimBoth (fun c => c = '/') s.toList
  have hreplicate : ∀ {l : List Char}, (∀ c ∈ l, decide (c = '/') = true) → l = List.replicate l.length '/' :=
    fun hl => List.eq_replicate_iff.2 ⟨rfl, fun c hc => of_decide_eq_true (hl c hc)⟩
  refine ⟨front.length, back.length, String.toList_inj.1 ?_⟩
  simp only [withoutSlashes, slashes, String.toList_append, String.toList_ofList]
  rw [← hreplicate hfront, ← hreplicate hback]
  exact hs

/-- **Two texts have one form exactly if they are the same but for slashes at their ends.** -/
theorem withoutSlashes_eq_iff {s t : String} : withoutSlashes s = withoutSlashes t ↔ SameButSlashes s t := by
  constructor
  · intro h
    obtain ⟨i, j, hs⟩ := exists_slashes s
    obtain ⟨k, l, ht⟩ := exists_slashes t
    exact ⟨withoutSlashes s, i, j, k, l, hs, h ▸ ht⟩
  · rintro ⟨core, i, j, k, l, rfl, rfl⟩
    rw [withoutSlashes_slashes, withoutSlashes_slashes]

/-! ## The library -/

theorem Lawful.canonical {n : Normalizer} (hn : n.Lawful) {t : FieldType} {v : FieldValue}
    (hcomputes : n.overflows v = false) (helsewhere : v.type ≠ t → n v = v) : n.Canonical t v (n v) :=
  ⟨⟨hcomputes, rfl⟩, hn.gives_self ⟨hcomputes, rfl⟩, helsewhere⟩

theorem exists_canonical_string {n : Normalizer} (hn : n ∈ [caseFold, trimSlashes]) (v : FieldValue) :
    ∃ w, n.Canonical .string v w ∧ w.type = v.type := by
  have hlawful : n.Lawful := lawful_of_mem_library (by simp only [library]; grind)
  simp only [List.mem_cons, List.not_mem_nil, or_false] at hn
  have hcomputes : n.overflows v = false := by rcases hn with rfl | rfl <;> cases v <;> rfl
  refine ⟨n v, hlawful.canonical hcomputes fun hv => ?_, ?_⟩
  · cases v with
    | string s => exact absurd rfl hv
    | _ => rcases hn with rfl | rfl <;> rfl
  · rcases hn with rfl | rfl <;> cases v <;> rfl

theorem exists_canonical_list (v : FieldValue) : ∃ w, unordered.Canonical .list v w ∧ w.type = v.type := by
  refine ⟨unordered v, unordered_lawful.canonical (by cases v <;> rfl) fun hv => ?_, by cases v <;> rfl⟩
  cases v with
  | list xs => exact absurd rfl hv
  | _ => rfl

/-- **The normalizers of the library give canonical forms.** Every value has a form that is its own form, is the value
itself where that has another type than the normalizer is for, and keeps its type but for the durations: a text that
says whole seconds becomes their number. The exception are the texts that overflow as a duration. Two lists have one
form exactly if they hold the same strings; it is the list sorted and without repetitions, strictly increasing in the
order of bytes. Two texts have one form without slashes exactly if they are the same but for slashes at their ends. -/
theorem library_canonical (v : FieldValue) (xs ys : List String) (s t : String) :
    ((∃ w, durationSeconds.Canonical .string v w ∧ DurationForm v w) ↔ ¬ OverflowingText v) ∧
    (∀ n ∈ [caseFold, trimSlashes], ∃ w, n.Canonical .string v w ∧ w.type = v.type) ∧
    (∃ w, unordered.Canonical .list v w ∧ w.type = v.type) ∧
    (unordered (.list xs) = unordered (.list ys) ↔ ∀ x, x ∈ xs ↔ x ∈ ys) ∧
    (∃ zs, unordered (.list xs) = .list zs ∧ zs = (xs.mergeSort fun x y => x ≤ y).destutter (· ≠ ·) ∧
      zs.Pairwise fun x y => Text.bytes x < Text.bytes y) ∧
    (trimSlashes (.string s) = trimSlashes (.string t) ↔ SameButSlashes s t) := by
  refine ⟨durationSeconds_canonical_iff, fun n hn => exists_canonical_string hn v, exists_canonical_list v, ?_, ?_, ?_⟩
  · show FieldValue.list (sortedSet xs) = .list (sortedSet ys) ↔ _
    rw [FieldValue.list.injEq, sortedSet_eq_iff]
  · exact ⟨sortedSet xs, rfl, sortedSet_eq_destutter xs, pairwise_bytes_sortedSet xs⟩
  · show FieldValue.string (withoutSlashes s) = .string (withoutSlashes t) ↔ _
    rw [FieldValue.string.injEq, withoutSlashes_eq_iff]

/-- A final sigma among the capitals, a list with a repetition and a path with slashes. -/
theorem library_canonical_spellings :
    (∃ w, caseFold.Gives (.string "ΌΣΟΣ") w ∧ w = .string "όσος" ∧ caseFold.Gives w w) ∧
    unordered (.list ["b", "a", "b"]) = unordered (.list ["a", "b"]) ∧
    trimSlashes (.string "//transit/") = trimSlashes (.string "transit") := by
  obtain ⟨_, hstring, _, hset, _, hslashes⟩ :=
    library_canonical (.string "ΌΣΟΣ") ["b", "a", "b"] ["a", "b"] "//transit/" "transit"
  obtain ⟨w, hw, _⟩ := hstring caseFold (by simp)
  have hfolded : caseFold.Gives (.string "ΌΣΟΣ") (.string "όσος") := ⟨rfl, by decide +kernel⟩
  have hstrings : ∀ x, x ∈ ["b", "a", "b"] ↔ x ∈ ["a", "b"] := fun x => by grind
  exact ⟨⟨w, hw.toGives, hw.unique hfolded, hw.idempotent⟩, hset.2 hstrings,
    hslashes.2 ⟨"transit", 2, 1, 0, 0, by decide, by decide⟩⟩

/-- A text that is no duration, and is not left as it is either. -/
theorem library_canonical_overflowing :
    (∀ i, Duration.seconds "18446744073709551615s 1000ms" ≠ .ok i) ∧
    ∀ w, ¬ durationSeconds.Gives (.string "18446744073709551615s 1000ms") w := by
  have hoverflow : Duration.seconds "18446744073709551615s 1000ms" = .error .overflow := by decide +kernel
  exact ⟨fun i hi => by simp [hoverflow] at hi, fun w => OverflowingText.not_gives ⟨_, rfl, hoverflow⟩⟩

end Normalizer

end Converge
