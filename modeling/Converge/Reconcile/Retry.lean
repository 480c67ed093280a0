import Converge.Transport

/-!
# Retrying

A call that failed is made again while attempts are left and the transport says that it may help. The
pause before the next attempt grows by one backoff with every attempt.
-/

namespace Converge

/-- How often a call is made, and how long the pauses are. -/
structure RetryPolicy where
  /-- The number of attempts, the first one included. -/
  maxAttempts : UInt32
  /-- The pause after the first attempt; the pause after the n-th is n times as long. -/
  backoff : Delay
  one_le : 1 ≤ maxAttempts

namespace RetryPolicy

/-- `RetryPolicy::new`: the policy with at least one attempt. -/
def ofAttempts (maxAttempts : UInt32) (backoff : Delay) : RetryPolicy :=
  if h : 1 ≤ maxAttempts then ⟨maxAttempts, backoff, h⟩
  else ⟨1, backoff, UInt32.le_refl 1⟩

/-- `RetryPolicy::none`. -/
def once : RetryPolicy := ofAttempts 1 Delay.zero

/-- Five attempts, half a second apart at first. -/
def standard : RetryPolicy := ofAttempts 5 (Delay.ofMillis 500)

/-- `delay_after`: the pause after an attempt. -/
def delayAfter (p : RetryPolicy) (attempt : Nat) : Delay := p.backoff.times attempt

end RetryPolicy

/-- The last failure of a call and the number of attempts made. -/
structure Exhausted (ε : Type) where
  attempts : Nat
  error : ε

/-- A call to be made until it succeeds. -/
structure Retried (σ ε α : Type) where
  policy : RetryPolicy
  /-- The kind of resource, for the log. -/
  kind : String
  /-- What the call does, for the log. -/
  what : String
  call : Call
  op : Interaction σ ε α
  retryable : ε → Bool

namespace Retried

variable {σ ε α : Type} [ToString ε]

/-- The line that tells of a failed attempt. -/
def failureLine (r : Retried σ ε α) (attempt : Nat) (e : ε) : String :=
  r.kind ++ " " ++ r.what ++ " attempt " ++ Number.intText attempt ++ "/"
    ++ Number.intText r.policy.maxAttempts.toNat ++ " failed: " ++ toString e
    ++ "; retrying in " ++ (r.policy.delayAfter attempt).text

/-- Makes the call as attempt number `attempt`, with `left` more attempts to make after it. -/
def attemptFrom (r : Retried σ ε α) (attempt left : Nat) : Run σ (Exhausted ε) α := fun w =>
  match Run.call r.call r.op w with
  | (.ok v, w) => (.ok v, w)
  | (.error e, w) =>
    match left with
    | 0 => (.error ⟨attempt, e⟩, w)
    | left + 1 =>
      if r.retryable e then
        let noted := [.note (.line .warn (r.failureLine attempt e)),
          .note (.pause (r.policy.delayAfter attempt))]
        attemptFrom r (attempt + 1) left { w with journal := w.journal ++ noted }
      else (.error ⟨attempt, e⟩, w)

/-- `with_retry`: makes the call, again and again if need be. -/
def run (r : Retried σ ε α) : Run σ (Exhausted ε) α :=
  r.attemptFrom 1 (r.policy.maxAttempts.toNat - 1)

end Retried

end Converge
