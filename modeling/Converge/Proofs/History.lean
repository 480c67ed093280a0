import Converge.Reconcile.Retry

/-!
# Histories

A history lists the calls of a run with the answers that they got. `Course` ties it to the run: the calls
are the ones that entered the journal, and they account for all that happened to the remote. A retried
call leaves a history of `Tries`. Main theorem: `Retried.run_tries`.
-/

namespace Converge

variable {σ ε α β : Type}

/-! ## Computations in a row -/

theorem bind_of_ok {x : ExceptT ε (StateM σ) α} {g : α → ExceptT ε (StateM σ) β} {s s' : σ} {a : α}
    (h : x s = (.ok a, s')) : (x >>= g) s = g a s' := by
  simp only [Bind.bind, ExceptT.bind, ExceptT.mk, StateT.bind, h]
  rfl

theorem bind_of_error {x : ExceptT ε (StateM σ) α} {g : α → ExceptT ε (StateM σ) β} {s s' : σ} {e : ε}
    (h : x s = (.error e, s')) : (x >>= g) s = (.error e, s') := by
  simp only [Bind.bind, ExceptT.bind, ExceptT.mk, StateT.bind, h]
  rfl

/-! ## Calls and answers -/

/-- What a call gives if it succeeds. -/
abbrev Call.Result : Call → Type
  | .read _ => Option FieldMap
  | .write _ _ => Option String
  | .delete _ => Unit
  | .create _ => String

/-- A call and what came of it. -/
structure Exchange (ε : Type) where
  call : Call
  answer : Except ε call.Result

/-- The calls of a run with their answers, in order. -/
abbrev History (ε : Type) := List (Exchange ε)

/-- The history of a call that got some answers, one after the other. -/
def Call.answered (c : Call) (answers : List (Except ε c.Result)) : History ε :=
  answers.map (Exchange.mk c)

theorem Call.eq_of_mem_answered {c : Call} {answers : List (Except ε c.Result)} {x : Exchange ε}
    (h : x ∈ c.answered answers) : x.call = c := by
  obtain ⟨_, _, rfl⟩ := List.mem_map.1 h
  rfl

namespace Transport

def operation (t : Transport σ ε) : (c : Call) → Interaction σ ε c.Result
  | .read id => t.read id
  | .write id payload => t.write id payload
  | .delete id => t.delete id
  | .create desired => t.create desired

/-- Makes a call, without its notes. -/
def exchange (t : Transport σ ε) (c : Call) (s : σ) : Exchange ε × σ :=
  let (answer, wire) := t.operation c ⟨s, []⟩
  (⟨c, answer⟩, wire.remote)

/-- Makes calls, one after the other. -/
def replay (t : Transport σ ε) : List Call → σ → History ε × σ
  | [], s => ([], s)
  | c :: cs, s =>
    let (x, s) := t.exchange c s
    let (xs, s) := t.replay cs s
    (x :: xs, s)

theorem replay_append (t : Transport σ ε) (cs ds : List Call) (s : σ) :
    t.replay (cs ++ ds) s =
      ((t.replay cs s).1 ++ (t.replay ds (t.replay cs s).2).1, (t.replay ds (t.replay cs s).2).2) := by
  induction cs generalizing s with
  | nil => rfl
  | cons c cs ih => simp [replay, ih]

/-- A history comes about as its first exchange does and then as the rest of it. -/
theorem replay_cons_iff {t : Transport σ ε} {x : Exchange ε} {xs : History ε} {s s' : σ} :
    t.replay ((x :: xs).map (·.call)) s = (x :: xs, s') ↔ (t.operation x.call ⟨s, []⟩).1 = x.answer ∧
      t.replay (xs.map (·.call)) (t.operation x.call ⟨s, []⟩).2.remote = (xs, s') := by
  obtain ⟨c, answer⟩ := x
  rcases hop : t.operation c ⟨s, []⟩ with ⟨r, wire⟩
  simp only [List.map_cons, replay, exchange, hop, Prod.ext_iff, List.cons.injEq, Exchange.mk.injEq,
    heq_eq_eq, true_and, and_assoc]

/-- A history splits where its calls do. -/
theorem replay_append_iff {t : Transport σ ε} {before history : History ε} {s s' : σ} :
    t.replay ((before ++ history).map (·.call)) s = (before ++ history, s') ↔
      ∃ s₁, t.replay (before.map (·.call)) s = (before, s₁) ∧
        t.replay (history.map (·.call)) s₁ = (history, s') := by
  induction before generalizing s with
  | nil =>
    constructor
    · exact fun h => ⟨s, rfl, h⟩
    · rintro ⟨s₁, hs, h⟩
      cases hs
      exact h
  | cons x xs ih =>
    rw [List.cons_append, replay_cons_iff, ih]
    constructor
    · rintro ⟨hx, s₁, hxs, h⟩
      exact ⟨s₁, replay_cons_iff.2 ⟨hx, hxs⟩, h⟩
    · rintro ⟨s₁, hxs, h⟩
      obtain ⟨hx, hxs⟩ := replay_cons_iff.1 hxs
      exact ⟨hx, s₁, hxs, h⟩

/-- Every answer of a history was given by the remote in some state. -/
theorem answer_of_mem_replay {t : Transport σ ε} {history : History ε} {s s' : σ}
    (h : t.replay (history.map (·.call)) s = (history, s')) {x : Exchange ε} (hx : x ∈ history) :
    ∃ s₁, (t.operation x.call ⟨s₁, []⟩).1 = x.answer := by
  induction history generalizing s with
  | nil => cases hx
  | cons y ys ih =>
    obtain ⟨hanswer, hys⟩ := replay_cons_iff.1 h
    rcases List.mem_cons.1 hx with rfl | hx
    · exact ⟨s, hanswer⟩
    · exact ih hys hx

end Transport

theorem Journal.outcomes_append (j k : Journal) :
    Journal.outcomes (j ++ k) = Journal.outcomes j ++ Journal.outcomes k :=
  List.filterMap_append

theorem Journal.outcomes_notes (ns : List Note) : Journal.outcomes (ns.map .note) = [] := by
  simp [outcomes]

/-! ## The course of a run -/

/-- A run from `w` to `w'` made the calls of the history and no others: they are the calls that entered
the journal, and the remote gave these answers to them and is as they left it. -/
structure Course (t : Transport σ ε) (w : World σ) (history : History ε) (w' : World σ) : Prop where
  journal : ∃ events, w'.journal = w.journal ++ events ∧
    Journal.outcomes events = history.map fun x => (x.call, x.answer.toBool)
  remote : t.replay (history.map (·.call)) w.remote = (history, w'.remote)

namespace Course

variable {t : Transport σ ε} {w w' w'' : World σ} {history history' : History ε}

theorem refl (w : World σ) : Course t w [] w := ⟨⟨[], by simp, rfl⟩, rfl⟩

theorem trans (h : Course t w history w') (h' : Course t w' history' w'') :
    Course t w (history ++ history') w'' := by
  obtain ⟨events, hj, hc⟩ := h.journal
  obtain ⟨events', hj', hc'⟩ := h'.journal
  refine ⟨⟨events ++ events', by rw [hj', hj, List.append_assoc], ?_⟩, ?_⟩
  · rw [Journal.outcomes_append, hc, hc', List.map_append]
  · rw [List.map_append, Transport.replay_append, h.remote, h'.remote]

/-- Notes are no calls. -/
theorem notes (w : World σ) (ns : List Note) :
    Course t w [] { w with journal := w.journal ++ ns.map .note } :=
  ⟨⟨ns.map .note, rfl, Journal.outcomes_notes ns⟩, rfl⟩

theorem call (c : Call) (w : World σ) :
    Course t w [⟨c, (Run.call c (t.operation c) w).1⟩] (Run.call c (t.operation c) w).2 := by
  refine ⟨⟨_, rfl, ?_⟩, rfl⟩
  simp only [Journal.outcomes, List.filterMap_cons, List.map_cons, List.map_nil]
  exact congrArg _ (Journal.outcomes_notes _)

end Course

/-! ## Tries -/

/-- The answers to a call that is made up to `bound` times: all but the last are failures after which it
may be made again, and the last is a success, a failure for good or the last chance. -/
structure Tries (retryable : ε → Bool) (bound : Nat) (answers : List (Except ε α)) (last : Except ε α) :
    Prop where
  earlier : ∃ failed : List ε, answers = failed.map .error ++ [last] ∧ ∀ e ∈ failed, retryable e = true
  within : answers.length ≤ bound
  final : ∀ e, last = .error e → retryable e = true → answers.length = bound

namespace Tries

variable {retryable : ε → Bool} {bound : Nat} {answers : List (Except ε α)} {last : Except ε α}

theorem single (h : ∀ e, last = .error e → retryable e = true → bound = 0) :
    Tries retryable (bound + 1) [last] last :=
  ⟨⟨[], rfl, nofun⟩, by simp, fun e he hr => by simp [h e he hr]⟩

theorem cons {e : ε} (he : retryable e = true) (h : Tries retryable bound answers last) :
    Tries retryable (bound + 1) (.error e :: answers) last := by
  obtain ⟨failed, rfl, hf⟩ := h.earlier
  refine ⟨⟨e :: failed, rfl, List.forall_mem_cons.2 ⟨he, hf⟩⟩, ?_, fun e' hl hr => ?_⟩
  · simpa using h.within
  · simpa using h.final e' hl hr

theorem length_pos (h : Tries retryable bound answers last) : 1 ≤ answers.length := by
  obtain ⟨failed, rfl, _⟩ := h.earlier
  simp

theorem mem (h : Tries retryable bound answers last) : last ∈ answers := by
  obtain ⟨failed, rfl, _⟩ := h.earlier
  simp

/-- A call that fails for good whenever it is made is made once. -/
theorem eq_single {e : ε} (h : Tries retryable bound answers last) (hall : ∀ a ∈ answers, a = .error e)
    (hr : retryable e = false) : answers = [.error e] ∧ last = .error e := by
  obtain ⟨failed, rfl, hf⟩ := h.earlier
  have hlast : last = .error e := hall last (by simp)
  cases failed with
  | nil => exact ⟨by simp [hlast], hlast⟩
  | cons e' failed =>
    have he : (.error e' : Except ε α) = .error e := hall _ (by simp)
    cases he
    have := hf e List.mem_cons_self
    rw [hr] at this
    cases this

end Tries

theorem RetryPolicy.one_le_toNat (p : RetryPolicy) : 1 ≤ p.maxAttempts.toNat := by
  simpa using UInt32.le_iff_toNat_le.1 p.one_le

namespace Retried

theorem course_call {t : Transport σ ε} {c : Call} {r : Retried σ ε c.Result} (hc : r.call = c)
    (hop : r.op = t.operation c) (w : World σ) :
    ∃ answer w', Run.call r.call r.op w = (answer, w') ∧ Course t w [⟨c, answer⟩] w' := by
  refine ⟨_, _, rfl, ?_⟩
  simp only [hc, hop]
  exact Course.call c w

variable [ToString ε]

/-- What is noted between an attempt that failed and the next one. -/
def waiting (r : Retried σ ε α) (attempt : Nat) (e : ε) : List Note :=
  [.line .warn (r.failureLine attempt e), .pause (r.policy.delayAfter attempt)]

section
variable {r : Retried σ ε α} {attempt left : Nat} {w w' : World σ} {e : ε}

theorem attemptFrom_stop {answer : Except ε α} (h : Run.call r.call r.op w = (answer, w'))
    (hstop : ∀ e, answer = .error e → r.retryable e = true → left = 0) :
    r.attemptFrom attempt left w = (answer.mapError (Exhausted.mk attempt), w') := by
  rw [attemptFrom.eq_def, h]
  cases answer with
  | ok v => rfl
  | error e =>
    cases left with
    | zero => rfl
    | succ left =>
      have hr : r.retryable e ≠ true := fun hr => Nat.succ_ne_zero left (hstop e rfl hr)
      simp only [hr, if_false, Bool.false_eq_true]
      rfl

theorem attemptFrom_again (attempt left : Nat) (h : Run.call r.call r.op w = (.error e, w'))
    (hr : r.retryable e = true) :
    r.attemptFrom attempt (left + 1) w =
      r.attemptFrom (attempt + 1) left { w' with journal := w'.journal ++ (r.waiting attempt e).map .note } := by
  rw [attemptFrom.eq_def, h]
  simp only [hr, if_true, waiting, List.map_cons, List.map_nil]

end

variable {t : Transport σ ε} {c : Call} {r : Retried σ ε c.Result}

/-- The invariant of the loop: from any attempt on, the calls still to be made are tries. -/
theorem attemptFrom_tries (hc : r.call = c) (hop : r.op = t.operation c) (attempt left : Nat)
    (w : World σ) :
    ∃ answers last, Tries r.retryable (left + 1) answers last ∧
      Course t w (c.answered answers) (r.attemptFrom attempt left w).2 ∧
      (r.attemptFrom attempt left w).1 = last.mapError (Exhausted.mk (attempt + answers.length - 1)) := by
  induction left generalizing attempt w with
  | zero =>
    obtain ⟨answer, w', hrun, hcourse⟩ := course_call hc hop w
    refine ⟨[answer], answer, Tries.single fun _ _ _ => rfl, ?_⟩
    rw [attemptFrom_stop hrun fun _ _ _ => rfl]
    exact ⟨hcourse, rfl⟩
  | succ left ih =>
    obtain ⟨answer, w', hrun, hcourse⟩ := course_call hc hop w
    by_cases hr : ∃ e, answer = .error e ∧ r.retryable e = true
    · obtain ⟨e, rfl, hr⟩ := hr
      obtain ⟨answers, last, htries, hrest, hres⟩ :=
        ih (attempt + 1) { w' with journal := w'.journal ++ (r.waiting attempt e).map .note }
      rw [attemptFrom_again attempt left hrun hr]
      refine ⟨.error e :: answers, last, htries.cons hr, ?_, ?_⟩
      · exact (hcourse.trans (Course.notes w' _)).trans hrest
      · rw [hres, List.length_cons]
        congr 2
        omega
    · have hstop : ∀ e, answer = .error e → r.retryable e = true → left + 1 = 0 :=
        fun e he hr' => absurd ⟨e, he, hr'⟩ hr
      refine ⟨[answer], answer, Tries.single hstop, ?_⟩
      rw [attemptFrom_stop hrun hstop]
      exact ⟨hcourse, rfl⟩

/-- **A retried call** is made between once and as often as the policy says, and its result is that of
the last try, with the number of tries if that failed. -/
theorem run_tries (hc : r.call = c) (hop : r.op = t.operation c) (w : World σ) :
    ∃ answers last, Tries r.retryable r.policy.maxAttempts.toNat answers last ∧
      Course t w (c.answered answers) (r.run w).2 ∧
      (r.run w).1 = last.mapError (Exhausted.mk answers.length) := by
  have hpos : r.policy.maxAttempts.toNat - 1 + 1 = r.policy.maxAttempts.toNat :=
    Nat.sub_add_cancel r.policy.one_le_toNat
  obtain ⟨answers, last, htries, hcourse, hres⟩ :=
    attemptFrom_tries hc hop 1 (r.policy.maxAttempts.toNat - 1) w
  rw [hpos] at htries
  refine ⟨answers, last, htries, hcourse, ?_⟩
  rw [run, hres, Nat.add_sub_cancel_left]

end Retried

end Converge
