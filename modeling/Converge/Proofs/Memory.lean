import Converge.Proofs.Accounts

/-!
# Remotes that keep what they are sent

A transport *keeps* a remote in memory if a call that succeeds answers and acts as the remote in memory does,
and a call that fails has no effect (`Transport.Keeps`). Which calls fail is left open. From a *quiet* state no
call fails any more. A retried call then does what its last try does (`Transport.Keeps.of_tries`), and from a
quiet state it is made once (`Transport.Keeps.of_quiet`). The transport to the remote in memory is one of this
kind: `MemoryRemote.transport_keeps`.
-/

namespace Converge

variable {σ ε : Type}

/-! ## Calls that succeed -/

/-- What a call does to a remote in memory, if it does not fail. -/
def MemoryRemote.perform (r : MemoryRemote) : (c : Call) → c.Result × MemoryRemote
  | .read id => MemoryRemote.read id r
  | .write id payload => MemoryRemote.write id payload r
  | .delete id => MemoryRemote.delete id r
  | .create desired => MemoryRemote.create desired r

namespace Transport

/-- The transport keeps a remote in memory: a call that fails has no effect, and one that succeeds answers and
acts as the remote in memory. From a quiet state no call fails. -/
structure Keeps (t : Transport σ ε) (memory : σ → MemoryRemote) (quiet : σ → Prop) : Prop where
  failed : ∀ c s e, (t.operation c ⟨s, []⟩).1 = .error e →
    memory (t.operation c ⟨s, []⟩).2.remote = memory s ∧ ¬ quiet s
  succeeded : ∀ c s a, (t.operation c ⟨s, []⟩).1 = .ok a →
    (memory s).perform c = (a, memory (t.operation c ⟨s, []⟩).2.remote)
  quiet : ∀ c s, quiet s → quiet (t.operation c ⟨s, []⟩).2.remote

namespace Keeps

variable {t : Transport σ ε} {memory : σ → MemoryRemote} {quiet : σ → Prop} {retryable : ε → Bool} {bound : Nat}
  {c : Call} {answers : List (Except ε c.Result)} {last : Except ε c.Result} {s s' : σ}

/-- **A retried call does what its last try does**: nothing if that failed. -/
theorem of_tries (h : t.Keeps memory quiet) (tries : Tries retryable bound answers last)
    (hreplay : t.replay ((c.answered answers).map (·.call)) s = (c.answered answers, s')) :
    (∀ e, last = .error e → memory s' = memory s) ∧ ∀ a, last = .ok a → (memory s).perform c = (a, memory s') := by
  obtain ⟨failed, rfl, -⟩ := tries.earlier
  clear tries
  induction failed generalizing s with
  | nil =>
    obtain ⟨hanswer, hrest⟩ := replay_cons_iff.1 hreplay
    cases hrest
    exact ⟨fun e he => (h.failed c s e (hanswer.trans he)).1, fun a ha => h.succeeded c s a (hanswer.trans ha)⟩
  | cons e failed ih =>
    obtain ⟨hanswer, hrest⟩ := replay_cons_iff.1 hreplay
    have hsame := (h.failed c s e hanswer).1
    obtain ⟨herror, hok⟩ := ih hrest
    exact ⟨fun e he => (herror e he).trans hsame, fun a ha => hsame ▸ hok a ha⟩

/-- From a quiet state a call is made once, and it succeeds. -/
theorem of_quiet (h : t.Keeps memory quiet) (tries : Tries retryable bound answers last)
    (hreplay : t.replay ((c.answered answers).map (·.call)) s = (c.answered answers, s')) (hquiet : quiet s) :
    ∃ a, answers = [.ok a] ∧ last = .ok a ∧ quiet s' := by
  obtain ⟨failed, rfl, -⟩ := tries.earlier
  cases failed with
  | nil =>
    obtain ⟨hanswer, hrest⟩ := replay_cons_iff.1 hreplay
    cases hrest
    cases last with
    | error e => exact absurd hquiet (h.failed c s e hanswer).2
    | ok a => exact ⟨a, rfl, rfl, h.quiet c s hquiet⟩
  | cons e failed => exact absurd hquiet (h.failed c s e (replay_cons_iff.1 hreplay).1).2

end Keeps

end Transport

/-! ## The remote in memory -/

namespace MemoryRemote

/-- The remote with no failure in line. -/
def calm (r : MemoryRemote) : MemoryRemote := { r with failures := fun _ => [] }

theorem operation_transport (c : Call) (r : MemoryRemote) : transport.operation c ⟨r, []⟩ =
    ((attempt c.kind (·.perform c) r).1, ⟨(attempt c.kind (·.perform c) r).2, []⟩) := by
  cases c <;> rfl

/-- Failures in line play no part in what a call does if it does not fail. -/
theorem perform_calm (c : Call) (r : MemoryRemote) : r.calm.perform c = ((r.perform c).1, (r.perform c).2.calm) := by
  cases c <;> rfl

theorem failures_perform (c : Call) (r : MemoryRemote) : (r.perform c).2.failures = r.failures := by
  cases c <;> rfl

/-- **The transport to the remote in memory keeps it**, whatever failures are in line. -/
theorem transport_keeps : transport.Keeps calm fun r => r.failures = fun _ => [] := by
  refine ⟨fun c r e he => ?_, fun c r a ha => ?_, fun c r hquiet => ?_⟩
  all_goals
    simp only [operation_transport] at *
    unfold attempt at *
  · cases hf : r.failures c.kind with
    | nil =>
      rw [hf] at he
      cases he
    | cons e' rest =>
      refine ⟨rfl, fun hquiet => ?_⟩
      rw [hquiet] at hf
      cases hf
  · cases hf : r.failures c.kind with
    | nil =>
      rw [hf] at ha
      cases ha
      exact perform_calm c r
    | cons e' rest =>
      rw [hf] at ha
      cases ha
  · rw [hquiet]
    exact (failures_perform c r).trans hquiet

end MemoryRemote

end Converge
