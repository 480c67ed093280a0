import Mathlib.Data.List.Basic
import Converge.Transport.Memory
import Converge.Proofs.History

/-!
# Retrying

How often a retried call is made, and what enters the journal meanwhile. The answers to a call that is made
again and again are a sequence of their own, fixed by the remote that the call starts from (`Retried.answer`). A
retried call goes through this sequence up to the first answer that settles it, or as far as its attempts reach.
`Retried.loop` is the same loop with nothing but a counter of 32 bits, and the counter never overflows
(`Retried.loop_zero`). Main theorem: `Retried.run_exact`.
-/

namespace Converge

namespace RetryPolicy

theorem toNat_maxAttempts_ofAttempts (maxAttempts : UInt32) (backoff : Delay) :
    (ofAttempts maxAttempts backoff).maxAttempts.toNat = max maxAttempts.toNat 1 := by
  unfold ofAttempts
  split
  · rename_i h
    simp only [UInt32.le_iff_toNat_le, UInt32.toNat_one] at h
    simp only
    omega
  · rename_i h
    simp only [UInt32.le_iff_toNat_le, UInt32.toNat_one] at h
    simp only [UInt32.toNat_one]
    omega

theorem backoff_ofAttempts (maxAttempts : UInt32) (backoff : Delay) :
    (ofAttempts maxAttempts backoff).backoff = backoff := by
  unfold ofAttempts
  split <;> rfl

end RetryPolicy

namespace Retried

variable {σ ε α : Type}

/-! ## A call that is made again and again -/

/-- The remote after a number of calls. -/
def remoteAfter (r : Retried σ ε α) (s : σ) : Nat → σ
  | 0 => s
  | n + 1 => (r.op ⟨r.remoteAfter s n, []⟩).2.remote

/-- What the call of a number gives; the first has number one. -/
def answer (r : Retried σ ε α) (s : σ) (n : Nat) : Except ε α := (r.op ⟨r.remoteAfter s (n - 1), []⟩).1

/-- What the call of a number notes itself. -/
def notes (r : Retried σ ε α) (s : σ) (n : Nat) : List Note := (r.op ⟨r.remoteAfter s (n - 1), []⟩).2.notes

/-- No call is made after this answer, whatever attempts are left. -/
def Settles (r : Retried σ ε α) (answer : Except ε α) : Prop := ∀ e, answer = .error e → r.retryable e = false

/-- The number of the first call whose answer settles. -/
structure SettledAt (r : Retried σ ε α) (s : σ) (k : Nat) : Prop where
  pos : 1 ≤ k
  settles : r.Settles (r.answer s k)
  first : ∀ i, 1 ≤ i → i < k → ¬ r.Settles (r.answer s i)

/-- The call number `n` is the last one of those that are made, if `bound` calls may be made. -/
structure StopsAt (r : Retried σ ε α) (s : σ) (bound n : Nat) : Prop where
  pos : 1 ≤ n
  within : n ≤ bound
  before : ∀ i, 1 ≤ i → i < n → ¬ r.Settles (r.answer s i)
  early : n < bound → r.Settles (r.answer s n)

theorem not_settles_iff {r : Retried σ ε α} {answer : Except ε α} :
    ¬ r.Settles answer ↔ ∃ e, answer = .error e ∧ r.retryable e = true := by
  simp [Settles]

section
variable {r : Retried σ ε α} {s : σ} {bound n : Nat}

theorem StopsAt.eq_min {k : Nat} (h : r.StopsAt s bound n) (hk : r.SettledAt s k) : n = min k bound := by
  have hwithin := h.within
  have hnk : n ≤ k := by
    by_contra hlt
    exact h.before k hk.pos (by omega) hk.settles
  have hkn : n < bound → k ≤ n := by
    intro hearly
    by_contra hlt
    exact hk.first n h.pos (by omega) (h.early hearly)
  omega

/-- Calls that stop before the bound are settled there. -/
theorem StopsAt.settledAt (h : r.StopsAt s bound n) (hn : n < bound) : r.SettledAt s n :=
  ⟨h.pos, h.early hn, h.before⟩

/-- Where no call up to the bound settles, the last one is that at the bound, and it fails. -/
theorem StopsAt.of_late (h : r.StopsAt s bound n) (hlate : ∀ k, r.SettledAt s k → bound < k) :
    n = bound ∧ ∃ e, r.answer s n = .error e := by
  have hwithin := h.within
  have hn : n = bound := by
    by_contra hne
    have := hlate n (h.settledAt (by omega))
    omega
  refine ⟨hn, ?_⟩
  have hs : ¬ r.Settles (r.answer s n) := by
    intro hs
    have := hlate n ⟨h.pos, hs, h.before⟩
    omega
  obtain ⟨e, he, _⟩ := not_settles_iff.1 hs
  exact ⟨e, he⟩

end

/-- The call of the next number, in a world that the calls before it have left. -/
theorem call_eq {r : Retried σ ε α} {s : σ} {w : World σ} {n : Nat} (hw : w.remote = r.remoteAfter s n) :
    Run.call r.call r.op w = (r.answer s (n + 1), ⟨r.remoteAfter s (n + 1),
      w.journal ++ .call r.call (r.answer s (n + 1)).toBool :: (r.notes s (n + 1)).map .note⟩) := by
  unfold Run.call answer notes
  rw [hw]
  rfl

variable [ToString ε]

/-- What is logged when the call of a number has failed and another one is to be made. -/
def warning (r : Retried σ ε α) (s : σ) (i : Nat) : List Note :=
  match r.answer s i with
  | .error e => [.line .warn (r.failureLine i e)]
  | .ok _ => []

/-- What the call number `i` of `n` calls adds to the journal: the call and what it notes, and unless it is the
last one a line about its failure and the pause before the next. -/
def stretch (r : Retried σ ε α) (s : σ) (n i : Nat) : Journal :=
  .call r.call (r.answer s i).toBool :: (r.notes s i).map .note ++
    if i < n then (r.warning s i).map .note ++ [.note (.pause (r.policy.delayAfter i))] else []

/-! ## The loop -/

/-- After an answer that does not settle the loop goes on to the next call, if there is one. -/
theorem attemptFrom_of_not_settles {r : Retried σ ε α} {s : σ} {w : World σ} {i : Nat} (left : Nat)
    (hw : w.remote = r.remoteAfter s i) (hs : ¬ r.Settles (r.answer s (i + 1))) :
    ∃ next : World σ, r.attemptFrom (i + 1) (left + 1) w = r.attemptFrom (i + 2) left next ∧
      next.remote = r.remoteAfter s (i + 1) ∧
      ∀ n, i + 1 < n → next.journal = w.journal ++ r.stretch s n (i + 1) := by
  obtain ⟨e, he, hr⟩ := not_settles_iff.1 hs
  have hcall := call_eq hw
  rw [he] at hcall
  refine ⟨_, attemptFrom_again (i + 1) left hcall hr, rfl, ?_⟩
  intro n hn
  simp [stretch, warning, waiting, he, hn]

/-- The invariant of the loop: with `i` calls made and `left + 1` to go, it goes on to the call number `n`, which
is the first that settles or the last that may be made. -/
theorem attemptFrom_exact (r : Retried σ ε α) (s : σ) (left i : Nat) (w : World σ)
    (hw : w.remote = r.remoteAfter s i) :
    ∃ n, i < n ∧ n ≤ i + 1 + left ∧ (∀ j, i < j → j < n → ¬ r.Settles (r.answer s j)) ∧
      (n < i + 1 + left → r.Settles (r.answer s n)) ∧
      r.attemptFrom (i + 1) left w = ((r.answer s n).mapError (Exhausted.mk n),
        ⟨r.remoteAfter s n, w.journal ++ (List.range' (i + 1) (n - i)).flatMap (r.stretch s n)⟩) := by
  induction left generalizing i w with
  | zero =>
    refine ⟨i + 1, by omega, by omega, by omega, by omega, ?_⟩
    rw [attemptFrom_stop (call_eq hw) fun _ _ _ => rfl]
    simp [stretch]
  | succ left ih =>
    by_cases hs : r.Settles (r.answer s (i + 1))
    · refine ⟨i + 1, by omega, by omega, by omega, fun _ => hs, ?_⟩
      rw [attemptFrom_stop (call_eq hw)]
      · simp [stretch]
      · intro e he hr
        rw [hs e he] at hr
        cases hr
    · obtain ⟨next, hagain, hremote, hjournal⟩ := attemptFrom_of_not_settles left hw hs
      obtain ⟨n, hin, hn, hbefore, hlast, hrun⟩ := ih (i + 1) next hremote
      refine ⟨n, by omega, by omega, ?_, fun h => hlast (by omega), ?_⟩
      · intro j hij hjn
        by_cases hj : j = i + 1
        · rwa [hj]
        · exact hbefore j (by omega) hjn
      · -- the stretch of this call is the first one
        have hcount : n - i = n - (i + 1) + 1 := by omega
        rw [hagain, hrun, hjournal n hin, hcount, List.range'_succ, List.flatMap_cons, List.append_assoc]

/-- A retried call goes on to the call at which it stops. -/
theorem run_stops (r : Retried σ ε α) (w : World σ) :
    ∃ n, r.StopsAt w.remote r.policy.maxAttempts.toNat n ∧
      r.run w = ((r.answer w.remote n).mapError (Exhausted.mk n),
        ⟨r.remoteAfter w.remote n, w.journal ++ (List.range' 1 n).flatMap (r.stretch w.remote n)⟩) := by
  have hone := r.policy.one_le_toNat
  obtain ⟨n, hpos, hn, hbefore, hlast, hrun⟩ :=
    r.attemptFrom_exact w.remote (r.policy.maxAttempts.toNat - 1) 0 w rfl
  exact ⟨n, ⟨hpos, by omega, fun i hi => hbefore i hi, fun h => hlast (by omega)⟩, hrun⟩

theorem toNat_add_one {n : UInt32} (h : n.toNat + 1 < UInt32.size) : (n + 1).toNat = n.toNat + 1 := by
  simp only [UInt32.toNat_add, UInt32.toNat_one]
  exact Nat.mod_eq_of_lt h

/-- The loop with a counter of 32 bits, which is all it knows about the calls it has made; none if the counter
overflows. -/
def loop (r : Retried σ ε α) (attempt : UInt32) (w : World σ) : Option (Except (Exhausted ε) α × World σ) :=
  if attempt.toNat + 1 < UInt32.size then
    match Run.call r.call r.op w with
    | (.ok v, w) => some (.ok v, w)
    | (.error e, w) =>
      if hleft : attempt + 1 < r.policy.maxAttempts ∧ r.retryable e = true then
        r.loop (attempt + 1)
          { w with journal := w.journal ++ (r.waiting (attempt + 1).toNat e).map .note }
      else some (.error ⟨(attempt + 1).toNat, e⟩, w)
  else none
termination_by r.policy.maxAttempts.toNat - attempt.toNat
decreasing_by
  have hlt := UInt32.lt_iff_toNat_lt.1 hleft.1
  rw [toNat_add_one ‹_›] at hlt ⊢
  omega

/-- The counter and the attempts that are left add up to the bound of the policy, so the counter stays below it
while it grows. -/
theorem loop_eq_attemptFrom (r : Retried σ ε α) (left : Nat) (attempt : UInt32) (w : World σ)
    (h : attempt.toNat + 1 + left = r.policy.maxAttempts.toNat) :
    r.loop attempt w = some (r.attemptFrom (attempt.toNat + 1) left w) := by
  have hbound := r.policy.maxAttempts.toNat_lt_size
  induction left generalizing attempt w with
  | zero =>
    have hfits : attempt.toNat + 1 < UInt32.size := by omega
    have hnext := toNat_add_one hfits
    have hleft : ¬ attempt + 1 < r.policy.maxAttempts := by
      rw [UInt32.lt_iff_toNat_lt]
      omega
    rw [loop, if_pos hfits, attemptFrom.eq_def]
    rcases Run.call r.call r.op w with ⟨e | v, w'⟩
    · simp [hleft, hnext]
    · rfl
  | succ left ih =>
    have hfits : attempt.toNat + 1 < UInt32.size := by omega
    have hnext := toNat_add_one hfits
    have hleft : attempt + 1 < r.policy.maxAttempts := by
      rw [UInt32.lt_iff_toNat_lt]
      omega
    rw [loop, if_pos hfits]
    rcases hcall : Run.call r.call r.op w with ⟨e | v, w'⟩
    · by_cases hr : r.retryable e = true
      · rw [attemptFrom_again _ left hcall hr]
        simp only [hleft, hr, and_self, dite_true]
        rw [ih (attempt + 1) _ (by omega), hnext]
      · rw [attemptFrom_stop hcall fun e' he hr' => by cases he; exact absurd hr' hr]
        simp [hr, hnext, Except.mapError]
    · rw [attemptFrom_stop hcall fun e he => by cases he]
      rfl

/-- **The counter never overflows**, so the loop ends, and it does what a retried call does. -/
theorem loop_zero (r : Retried σ ε α) (w : World σ) : r.loop 0 w = some (r.run w) := by
  have hone := r.policy.one_le_toNat
  exact r.loop_eq_attemptFrom (r.policy.maxAttempts.toNat - 1) 0 w (by simp only [UInt32.toNat_zero]; omega)

/-! ## The calls and the pauses of a retried call -/

section
variable (r : Retried σ ε α) (s : σ) (n : Nat)

theorem calls_stretch (i : Nat) : Journal.calls (r.stretch s n i) = [r.call] := by
  unfold stretch Journal.calls
  split <;> simp

/-- There is one call in each stretch. -/
theorem calls_stretches (is : List Nat) :
    Journal.calls (is.flatMap (r.stretch s n)) = List.replicate is.length r.call := by
  have hcalls : Journal.calls (is.flatMap (r.stretch s n)) = is.flatMap fun i => Journal.calls (r.stretch s n i) :=
    List.filterMap_flatMap
  simp only [hcalls, calls_stretch, ← List.map_eq_flatMap, List.map_const']

variable {r s} (hquiet : ∀ i d, .pause d ∉ r.notes s i)
include hquiet

theorem pauses_stretch (i : Nat) :
    Journal.pauses (r.stretch s n i) = if i < n then [r.policy.delayAfter i] else [] := by
  have hnotes : Journal.pauses ((r.notes s i).map .note) = [] := by
    rw [Journal.pauses, List.filterMap_map, List.filterMap_eq_nil_iff]
    intro note hnote
    cases note with
    | line => rfl
    | pause d => exact absurd hnote (hquiet i d)
  have hwarning : Journal.pauses ((r.warning s i).map .note) = [] := by
    unfold warning
    split <;> rfl
  unfold Journal.pauses at hnotes hwarning
  unfold stretch Journal.pauses
  split <;> simp [hnotes, hwarning]

/-- A pause follows every call but the last, where the calls themselves make none. -/
theorem pauses_stretches :
    Journal.pauses ((List.range' 1 n).flatMap (r.stretch s n)) = (List.range' 1 (n - 1)).map r.policy.delayAfter := by
  have hpauses : Journal.pauses ((List.range' 1 n).flatMap (r.stretch s n)) =
      (List.range' 1 n).flatMap fun i => Journal.pauses (r.stretch s n i) := List.filterMap_flatMap
  simp only [hpauses, pauses_stretch n hquiet]
  cases n with
  | zero => rfl
  | succ k =>
    have hbefore : ∀ i ∈ List.range' 1 k, i < k + 1 := by
      intro i hi
      have := List.mem_range'_1.1 hi
      omega
    have hlast : ¬ 1 + k < k + 1 := by omega
    rw [List.range'_1_concat, List.flatMap_append, List.flatMap_singleton, if_neg hlast, List.append_nil,
      Nat.add_sub_cancel, List.map_eq_flatMap]
    exact List.flatMap_congr fun i hi => if_pos (hbefore i hi)

end

/-! ## The whole run -/

/-- **A retried call is made exactly until it is settled or its attempts are used up.** If the call number `k` is
the first whose answer settles, and `m` attempts are allowed, one at least, it is made `min k m` times, and `m`
times if no answer settles. Its result is that of the last call, with the number of calls if that failed, and the
error of the call number `m` if no call up to it settles. Every call but the last is followed by a pause, and the
pause after the call number `i` is `i` times the backoff, at most the longest delay. A counter of 32 bits counts the
calls without overflow, whatever the bound. -/
theorem run_exact (r : Retried σ ε α) (maxAttempts : UInt32) (backoff : Delay)
    (hpolicy : r.policy = .ofAttempts maxAttempts backoff) (w : World σ) :
    r.loop 0 w = some (r.run w) ∧
    ∃ n events, (∀ k, r.SettledAt w.remote k → n = min k (max maxAttempts.toNat 1)) ∧
      ((∀ k, ¬ r.SettledAt w.remote k) → n = max maxAttempts.toNat 1) ∧
      r.run w = ((r.answer w.remote n).mapError (Exhausted.mk n),
        ⟨r.remoteAfter w.remote n, w.journal ++ events⟩) ∧
      ((∀ k, r.SettledAt w.remote k → max maxAttempts.toNat 1 < k) →
        ∃ e, r.answer w.remote (max maxAttempts.toNat 1) = .error e ∧
          (r.run w).1 = .error ⟨max maxAttempts.toNat 1, e⟩) ∧
      events = (List.range' 1 n).flatMap (r.stretch w.remote n) ∧
      events.calls = List.replicate n r.call ∧
      ((∀ i d, .pause d ∉ r.notes w.remote i) →
        events.pauses = (List.range' 1 (n - 1)).map fun i => ⟨min (backoff.nanos * i) Delay.limit⟩) := by
  refine ⟨r.loop_zero w, ?_⟩
  have hdelay : r.policy.delayAfter = backoff.times := by
    funext i
    rw [hpolicy, RetryPolicy.delayAfter, RetryPolicy.backoff_ofAttempts]
  obtain ⟨n, hstops, hrun⟩ := r.run_stops w
  rw [hpolicy, RetryPolicy.toNat_maxAttempts_ofAttempts] at hstops
  refine ⟨n, _, fun k hk => hstops.eq_min hk, ?_, hrun, ?_, rfl, ?_, ?_⟩
  · intro hnever
    exact (hstops.of_late fun k hk => absurd hk (hnever k)).1
  · intro hlate
    obtain ⟨rfl, e, he⟩ := hstops.of_late hlate
    rw [hrun, he]
    exact ⟨e, rfl, rfl⟩
  · rw [calls_stretches, List.length_range']
  · intro hquiet
    rw [pauses_stretches n hquiet, hdelay]
    rfl

/-- A call that the third attempt settles: it fails for now when the remote counts fewer than two calls. -/
def settlingThird : Retried Nat MemoryError Unit where
  policy := .ofAttempts 5 (.ofMillis 100)
  kind := "key"
  what := "write"
  call := .delete "a"
  op := fun w => (if w.remote < 2 then .error ⟨"busy", true⟩ else .ok (), ⟨w.remote + 1, w.notes⟩)
  retryable := MemoryError.retryable

/-- Three calls, and pauses of one and two backoffs between them. -/
theorem run_exact_settlingThird : ∃ events : Journal,
    settlingThird.run ⟨0, []⟩ = (.ok (), ⟨3, events⟩) ∧ events.calls = [.delete "a", .delete "a", .delete "a"] ∧
      events.pauses = [.ofMillis 100, .ofMillis 200] := by
  obtain ⟨_, n, events, hn, _, hrun, _, _, hcalls, hpauses⟩ :=
    run_exact settlingThird 5 (.ofMillis 100) rfl ⟨0, []⟩
  have hthird : settlingThird.SettledAt 0 3 := by
    refine ⟨by omega, nofun, ?_⟩
    intro i hi hlt hs
    obtain rfl | rfl : i = 1 ∨ i = 2 := by omega
    · exact absurd (hs _ rfl) (by decide)
    · exact absurd (hs _ rfl) (by decide)
  obtain rfl := hn 3 hthird
  refine ⟨events, ?_, hcalls, ?_⟩
  · rw [hrun]
    rfl
  · rw [hpauses]
    · decide +kernel
    · intro i d hd
      have hnotes : settlingThird.notes 0 i = [] := rfl
      exact absurd (hnotes ▸ hd) List.not_mem_nil

end Retried

end Converge
