import Converge.Transport.Memory
import Converge.Proofs.Reconciliation

/-!
# The account of a reconciliation

The result of a reconciliation is all that its caller learns of it, and what the caller then keeps on
record rests on it. This module compares the result with the history: `effects` are the changes that took
effect, and `Accounts` says what a result tells about them. An error tells of no create and no write, and of
a deletion exactly if it is a partial replacement; an outcome names the effects one by one. Main theorem:
`Reconciler.reconcile_accounts`.
-/

namespace Converge

variable {σ ε : Type}

def Call.kind : Call → CallKind
  | .read _ => .read
  | .write _ _ => .write
  | .delete _ => .delete
  | .create _ => .create

/-- The kind of the call that failed for good, and how often the error says that it was made. -/
def ReconcileError.attempts? : ReconcileError ε → Option (CallKind × Nat)
  | .read n _ => some (.read, n)
  | .apply .create n _ => some (.create, n)
  | .apply .update n _ => some (.write, n)
  | .apply .delete n _ => some (.delete, n)
  | .replacement .delete n _ => some (.delete, n)
  | .replacement .create n _ => some (.create, n)
  | .field _ => none
  | .missingId _ => none

theorem Call.kind_eq_read {c : Call} : c.kind = .read ↔ c.isMutating = false := by
  cases c <;> simp [kind, isMutating]

/-! ## Effects -/

namespace History

/-- The changes that took effect: the calls other than reads that succeeded. -/
def effects (history : History ε) : History ε :=
  history.filter fun x => x.call.isMutating && x.answer.toBool

/-- How many calls of a kind were made. -/
def made (kind : CallKind) (history : History ε) : Nat := history.countP fun x => x.call.kind = kind

@[simp] theorem effects_nil : effects ([] : History ε) = [] := rfl

@[simp] theorem effects_append (h k : History ε) : effects (h ++ k) = effects h ++ effects k :=
  List.filter_append h k

@[simp] theorem made_append (kind : CallKind) (h k : History ε) : made kind (h ++ k) = made kind h + made kind k :=
  List.countP_append

theorem effects_eq_nil {history : History ε}
    (h : ∀ x ∈ history, x.call.isMutating = true → x.answer.toBool = false) : effects history = [] := by
  rw [effects, List.filter_eq_nil_iff]
  intro x hx
  simp only [Bool.and_eq_true, not_and, Bool.not_eq_true]
  exact h x hx

section
variable {reads : History ε} (h : ∀ x ∈ reads, x.call.isMutating = false)
include h

theorem effects_of_reads : effects reads = [] := by
  apply effects_eq_nil
  intro x hx hm
  rw [h x hx] at hm
  cases hm

/-- Every call that changes nothing is a read. -/
theorem made_of_reads {kind : CallKind} (hk : kind ≠ .read) : made kind reads = 0 := by
  rw [made, List.countP_eq_zero]
  intro x hx
  rw [decide_eq_true_eq, Call.kind_eq_read.2 (h x hx)]
  exact hk.symm

end

theorem made_answered (kind : CallKind) (c : Call) (answers : List (Except ε c.Result)) :
    made kind (c.answered answers) = if c.kind = kind then answers.length else 0 := by
  induction answers with
  | nil => simp [made, Call.answered]
  | cons a answers ih =>
    simp only [made, Call.answered, List.map_cons, List.countP_cons] at ih ⊢
    rw [ih]
    by_cases hk : c.kind = kind <;> simp [hk]

end History

open History

namespace Tries

variable {retryable : ε → Bool} {bound : Nat} {c : Call} {answers : List (Except ε c.Result)}
  {last : Except ε c.Result}

/-- Only the last try can take effect. -/
theorem effects_answered (h : Tries retryable bound answers last) :
    effects (c.answered answers) = effects [⟨c, last⟩] := by
  obtain ⟨failed, rfl, _⟩ := h.earlier
  have hfailed : effects (c.answered (failed.map .error)) = [] := by
    apply effects_eq_nil
    intro x hx _
    simp only [Call.answered, List.map_map, List.mem_map, Function.comp_apply] at hx
    obtain ⟨e, _, rfl⟩ := hx
    rfl
  rw [Call.answered, List.map_append, effects_append]
  change effects (c.answered (failed.map .error)) ++ effects [⟨c, last⟩] = _
  rw [hfailed, List.nil_append]

theorem effects_of_error {e : ε} (h : Tries retryable bound answers (.error e)) :
    effects (c.answered answers) = [] := by
  rw [h.effects_answered]
  simp [effects, Except.toBool]

theorem effects_of_ok {v : c.Result} (h : Tries retryable bound answers (.ok v)) (hc : c.isMutating = true) :
    effects (c.answered answers) = [⟨c, .ok v⟩] := by
  rw [h.effects_answered]
  simp [effects, Except.toBool, hc]

end Tries

/-! ## Accounts -/

/-- What the result of reconciling the resource of an id tells about the history. -/
def Accounts (id : Option String) (history : History ε) : Except (ReconcileError ε) Outcome → Prop
  | .error e =>
    (∀ x ∈ effects history, x.call.kind ≠ .create ∧ x.call.kind ≠ .write) ∧
      ((∃ x ∈ effects history, x.call.kind = .delete) ↔ e.isPartialReplacement = true) ∧
      ∀ kind n, e.attempts? = some (kind, n) → made kind history = n
  | .ok .unchanged => ∀ x ∈ history, x.call.isMutating = false
  | .ok (.created newId) => ∃ desired, effects history = [⟨.create desired, .ok newId⟩]
  | .ok (.updated _ movedTo) =>
    ∃ i payload, id = some i ∧ effects history = [⟨.write i payload, .ok movedTo⟩]
  | .ok (.replaced previous newId) =>
    id = some previous ∧
      ∃ desired, effects history = [⟨.delete previous, .ok ()⟩, ⟨.create desired, .ok newId⟩]

namespace Accounts

variable {id : Option String} {reads : History ε} {e : ReconcileError ε}

/-- An error of a run in which nothing took effect. -/
theorem error_of_effects_eq_nil (heffects : effects reads = []) (hp : e.isPartialReplacement = false)
    (hmade : ∀ kind n, e.attempts? = some (kind, n) → made kind reads = n) :
    Accounts id reads (.error e) := by
  refine ⟨?_, ?_, hmade⟩
  · intro x hx
    rw [heffects] at hx
    cases hx
  · rw [heffects, hp]
    simp

/-- An error that tells of the tries of the one call that followed the reads. -/
theorem error_of_tries {retryable : ε → Bool} {bound : Nat} {c : Call} {answers : List (Except ε c.Result)}
    {source : ε} (hreads : ∀ x ∈ reads, x.call.isMutating = false)
    (tries : Tries retryable bound answers (.error source)) (hc : c.kind ≠ .read)
    (hp : e.isPartialReplacement = false) (he : e.attempts? = some (c.kind, answers.length)) :
    Accounts id (reads ++ c.answered answers) (.error e) := by
  refine error_of_effects_eq_nil ?_ hp ?_
  · rw [effects_append, effects_of_reads hreads, tries.effects_of_error, List.append_nil]
  · intro kind n hn
    rw [he] at hn
    cases hn
    rw [made_append, made_of_reads hreads hc, made_answered, if_pos rfl, Nat.zero_add]

end Accounts

namespace Reconciler

variable {r : Reconciler} {t : Transport σ ε} {id : Option String} {desired : FieldMap}

theorem Reading.isMutating {reads : History ε} {found : Except (ReconcileError ε) (Option FieldMap)}
    (h : r.Reading t id reads found) : ∀ x ∈ reads, x.call.isMutating = false := by
  cases h with
  | skipped => nofun
  | made =>
    intro x hx
    rw [Call.eq_of_mem_answered hx]
    rfl

/-- The changes of one action, made after some reads, are what the result tells. -/
theorem Changing.accounts {a : Action} {reads changes : History ε} {result : Except (ReconcileError ε) Outcome}
    (hreads : ∀ x ∈ reads, x.call.isMutating = false) (h : r.Changing t id a changes result) :
    Accounts id (reads ++ changes) result := by
  have hnone := effects_of_reads hreads
  cases h with
  | noop =>
    rw [List.append_nil]
    exact hreads
  | @create _ d answers last tries =>
    cases last with
    | error source => exact .error_of_tries hreads tries nofun rfl rfl
    | ok newId =>
      refine ⟨d, ?_⟩
      rw [effects_append, hnone, tries.effects_of_ok rfl, List.nil_append]
  | @update i changed accompanying answers last tries =>
    cases last with
    | error source => exact .error_of_tries hreads tries nofun rfl rfl
    | ok movedTo =>
      refine ⟨i, updatePayload changed accompanying, rfl, ?_⟩
      rw [effects_append, hnone, tries.effects_of_ok rfl, List.nil_append]
  | keep tries => exact .error_of_tries hreads tries nofun rfl rfl
  | @replace i reason d deletes creates last deleted tries =>
    cases last with
    | error source =>
      -- the deletion took effect and the create did not: this is the partial replacement
      have heffects : effects (reads ++ ((Call.delete i).answered deletes ++
          (Call.create d).answered creates)) = [⟨.delete i, .ok ()⟩] := by
        rw [effects_append, effects_append, hnone, deleted.effects_of_ok rfl, tries.effects_of_error,
          List.append_nil, List.nil_append]
      refine ⟨?_, ?_, ?_⟩
      · rw [heffects]
        simp [Call.kind]
      · rw [heffects]
        simp [Call.kind, ReconcileError.isPartialReplacement]
      · rintro kind n ⟨⟩
        have hzero : made .create reads = 0 := made_of_reads hreads nofun
        rw [made_append, made_append, made_answered, made_answered, hzero]
        simp [Call.kind]
    | ok newId =>
      refine ⟨rfl, d, ?_⟩
      rw [effects_append, effects_append, hnone, deleted.effects_of_ok rfl, tries.effects_of_ok rfl,
        List.nil_append, List.singleton_append]
  | updateUnknown =>
    rw [List.append_nil]
    exact .error_of_effects_eq_nil hnone rfl nofun
  | replaceUnknown =>
    rw [List.append_nil]
    exact .error_of_effects_eq_nil hnone rfl nofun

theorem Ran.accounts {found : Except (ReconcileError ε) (Option FieldMap)} {history : History ε}
    {result : Except (ReconcileError ε) Outcome} (h : r.Ran t id desired found history result) :
    Accounts id history result := by
  cases h with
  | invalid => exact .error_of_effects_eq_nil rfl rfl nofun
  | unread _ reading =>
    have hnone := effects_of_reads reading.isMutating
    obtain ⟨i, answers, source, _, rfl, rfl⟩ := reading.of_error
    refine .error_of_effects_eq_nil hnone rfl ?_
    rintro kind n ⟨⟩
    rw [made_answered]
    simp [Call.kind]
  | unplanned _ reading _ => exact .error_of_effects_eq_nil (effects_of_reads reading.isMutating) rfl nofun
  | applied _ reading _ changing => exact changing.accounts reading.isMutating

variable [ToString ε]

/-- **The result of a reconciliation tells what took effect**, whatever the transport does. After an error no
create and no write succeeded, a deletion succeeded exactly if the error is a partial replacement, and the
number of attempts is that of the calls that were made of the kind that failed. An outcome names the changes
that succeeded, with their ids, and there are no others. -/
theorem reconcile_accounts (r : Reconciler) (t : Transport σ ε) (id : Option String) (desired : FieldMap)
    (w : World σ) :
    ∃ history, Course t w history (r.reconcile t id desired w).2 ∧
      Accounts id history (r.reconcile t id desired w).1 := by
  obtain ⟨history, result, w', hm, hran⟩ := reconcile_ran (r := r) (t := t) id desired w
  rw [hm.run]
  exact ⟨history, hm.course, hran.accounts⟩

end Reconciler

end Converge
