import Mathlib.Logic.Function.Basic
import Mathlib.Order.BooleanAlgebra.Set
import Converge.Proofs.Accounts

/-!
# What exists in a remote

A remote seen through the ids under which it has resources. `Exchange.leaves` says what is left of these ids
by a call and its answer, and `Transport.Tracks` that a transport does to its remote what the answers say.
The remote in memory is one of this kind, also where each kind of resource has a remote of its own. Main
theorems: `Transport.Tracks.replay` and `MemoryRemote.transport_tracks`.
-/

namespace Converge

variable {σ ε α : Type}

/-! ## Ids -/

/-- The ids under which resources exist after an exchange, given those before. A failure leaves all as it
is. -/
def Exchange.leaves : Exchange ε → Set String → Set String
  | ⟨.write id _, .ok movedTo⟩, ids => insert (movedTo.getD id) (ids \ {id})
  | ⟨.delete id, .ok _⟩, ids => ids \ {id}
  | ⟨.create _, .ok newId⟩, ids => insert newId ids
  | _, ids => ids

theorem Exchange.leaves_mono (x : Exchange ε) {ids ids' : Set String} (h : ids ⊆ ids') :
    x.leaves ids ⊆ x.leaves ids' := by
  obtain ⟨c, answer⟩ := x
  cases answer with
  | error e => cases c <;> exact h
  | ok v =>
    cases c with
    | read id => exact h
    | write id payload => exact Set.insert_subset_insert (Set.sdiff_subset_sdiff_left h)
    | delete id => exact Set.sdiff_subset_sdiff_left h
    | create desired => exact Set.insert_subset_insert h

/-- Only what takes effect matters. -/
theorem Exchange.leaves_eq_self {x : Exchange ε} (h : (x.call.isMutating && x.answer.toBool) = false)
    (ids : Set String) : x.leaves ids = ids := by
  obtain ⟨c, answer⟩ := x
  cases answer with
  | error e => cases c <;> rfl
  | ok v =>
    cases c with
    | read id => rfl
    | write | delete | create => cases h

namespace History

/-- The ids under which resources exist after a history, given those before. -/
def leaves (history : History ε) (ids : Set String) : Set String :=
  history.foldl (fun ids x => x.leaves ids) ids

theorem leaves_mono (history : History ε) {ids ids' : Set String} (h : ids ⊆ ids') :
    leaves history ids ⊆ leaves history ids' := by
  induction history generalizing ids ids' with
  | nil => exact h
  | cons x xs ih => exact ih (x.leaves_mono h)

theorem leaves_effects (history : History ε) (ids : Set String) :
    leaves (effects history) ids = leaves history ids := by
  induction history generalizing ids with
  | nil => rfl
  | cons x xs ih =>
    cases hx : x.call.isMutating && x.answer.toBool with
    | true =>
      have heffects : effects (x :: xs) = x :: effects xs := List.filter_cons_of_pos hx
      rw [heffects]
      exact ih (x.leaves ids)
    | false =>
      have heffects : effects (x :: xs) = effects xs := List.filter_cons_of_neg (by simp [hx])
      have hself : leaves (x :: xs) ids = leaves xs (x.leaves ids) := rfl
      rw [heffects, hself, Exchange.leaves_eq_self hx]
      exact ih ids

/-- Nothing comes to exist where nothing is created or written. -/
theorem leaves_subset {history : History ε} (h : ∀ x ∈ history, x.call.kind ≠ .create ∧ x.call.kind ≠ .write)
    (ids : Set String) : leaves history ids ⊆ ids := by
  induction history generalizing ids with
  | nil => exact subset_rfl
  | cons x xs ih =>
    obtain ⟨⟨hcreate, hwrite⟩, hxs⟩ := List.forall_mem_cons.1 h
    have hx : x.leaves ids ⊆ ids := by
      obtain ⟨c, answer⟩ := x
      cases c with
      | read id => cases answer <;> exact subset_rfl
      | write => exact absurd rfl hwrite
      | delete id =>
        cases answer with
        | error e => exact subset_rfl
        | ok _ => exact Set.sdiff_subset
      | create => exact absurd rfl hcreate
    exact (ih hxs (x.leaves ids)).trans hx

end History

open History

namespace Transport

/-- The ids under which resources exist are what the calls make of them, and a read that finds nothing tells
the truth. Resources may also disappear on their own; none appears. -/
structure Tracks (t : Transport σ ε) (ids : σ → Set String) : Prop where
  made : ∀ c s, ids (t.exchange c s).2 ⊆ (t.exchange c s).1.leaves (ids s)
  absent : ∀ id s, (t.read id ⟨s, []⟩).1 = .ok none → id ∉ ids s

/-- No call makes a resource appear under these ids. -/
def Spares (t : Transport σ ε) (ids : σ → Set String) : Prop := ∀ c s, ids (t.exchange c s).2 ⊆ ids s

/-- The transport of one kind, where there are several: it tracks the ids of this kind and spares those of
the others. -/
structure Serves (t : Transport σ ε) (ids : σ → String → Set String) (kind : String) : Prop where
  tracks : t.Tracks (ids · kind)
  spares : ∀ k, k ≠ kind → t.Spares (ids · k)

variable {t : Transport σ ε} {ids : σ → Set String} {history : History ε} {s s' : σ}

theorem Spares.replay (ht : t.Spares ids) (h : t.replay (history.map (·.call)) s = (history, s')) :
    ids s' ⊆ ids s := by
  induction history generalizing s with
  | nil =>
    cases h
    exact subset_rfl
  | cons x xs ih => exact (ih (replay_cons_iff.1 h).2).trans (ht x.call s)

theorem Tracks.replay (ht : t.Tracks ids) (h : t.replay (history.map (·.call)) s = (history, s')) :
    ids s' ⊆ leaves history (ids s) := by
  induction history generalizing s with
  | nil =>
    cases h
    exact subset_rfl
  | cons x xs ih =>
    obtain ⟨hanswer, hxs⟩ := replay_cons_iff.1 h
    have hx : (t.exchange x.call s).1 = x := congrArg (Exchange.mk x.call) hanswer
    have hstep := ht.made x.call s
    rw [hx] at hstep
    exact (ih hxs).trans (leaves_mono xs hstep)

/-- A history with no effect leaves at most what there was. -/
theorem Tracks.replay_of_reads (ht : t.Tracks ids) (h : t.replay (history.map (·.call)) s = (history, s'))
    (hreads : ∀ x ∈ history, x.call.isMutating = false) : ids s' ⊆ ids s := by
  have hsub := ht.replay h
  rwa [← leaves_effects, effects_of_reads hreads] at hsub

end Transport

/-! ## A remote for each kind -/

/-- A part of a call to the remote of one kind, where each kind has its own. -/
def Interaction.within (kind : String) (x : Interaction σ ε α) : Interaction (String → σ) ε α := fun w =>
  let (r, wire) := x ⟨w.remote kind, w.notes⟩
  (r, ⟨Function.update w.remote kind wire.remote, wire.notes⟩)

namespace Transport

/-- The transport to the remote of one kind, where each kind has its own. -/
def within (kind : String) (t : Transport σ ε) : Transport (String → σ) ε where
  read id := (t.read id).within kind
  write id payload := (t.write id payload).within kind
  delete id := (t.delete id).within kind
  create desired := (t.create desired).within kind
  retryable := t.retryable

theorem exchange_within (t : Transport σ ε) (kind : String) (c : Call) (s : String → σ) :
    (t.within kind).exchange c s =
      ((t.exchange c (s kind)).1, Function.update s kind (t.exchange c (s kind)).2) := by
  cases c <;> rfl

/-- With a remote for each kind a transport serves the kind whose remote it reaches. -/
theorem Tracks.serves_within {t : Transport σ ε} {ids : σ → Set String} (h : t.Tracks ids) (kind : String) :
    (t.within kind).Serves (fun s k => ids (s k)) kind := by
  refine ⟨⟨fun c s => ?_, fun id s habsent => h.absent id (s kind) habsent⟩, fun k hk c s => ?_⟩
  · simp only [exchange_within, Function.update_self]
    exact h.made c (s kind)
  · simp only [exchange_within, Function.update_of_ne hk]
    exact subset_rfl

end Transport

/-! ## Remotes in memory -/

namespace MemoryRemote

def ids (r : MemoryRemote) : Set String := {id | r.resources.contains id = true}

theorem mem_ids {r : MemoryRemote} {id : String} : id ∈ r.ids ↔ (r.resources.get? id).isSome = true := by
  rw [ids, Set.mem_ofPred_eq, SortedMap.contains_eq]

theorem ids_empty (idField : String) : (empty idField).ids = ∅ := by
  ext i
  rw [mem_ids, empty, SortedMap.get?_empty]
  simp

theorem ids_insert (r : MemoryRemote) (id : String) (fields : FieldMap) :
    (r.insert id fields).ids = Insert.insert id r.ids := by
  ext i
  rw [mem_ids, Set.mem_insert_iff, mem_ids, insert, SortedMap.get?_insert]
  by_cases h : id = i
  · simp [h]
  · simp [h, Ne.symm h]

theorem ids_vanish (r : MemoryRemote) (id : String) : (r.vanish id).ids = r.ids \ {id} := by
  ext i
  rw [mem_ids, Set.mem_sdiff, mem_ids, Set.mem_singleton_iff, vanish, SortedMap.get?_erase]
  by_cases h : id = i
  · simp [h]
  · simp [h, Ne.symm h]

/-- A call that takes a failure leaves the resources alone, so only its answer has to be looked at. -/
theorem attempt_made (c : Call) (f : MemoryRemote → c.Result × MemoryRemote) (r : MemoryRemote)
    (hf : (f r).2.ids ⊆ Exchange.leaves (⟨c, .ok (f r).1⟩ : Exchange MemoryError) r.ids) :
    (attempt c.kind f r).2.ids ⊆ Exchange.leaves ⟨c, (attempt c.kind f r).1⟩ r.ids := by
  unfold attempt
  cases r.failures c.kind with
  | nil => exact hf
  | cons e rest =>
    have hself := Exchange.leaves_eq_self (x := (⟨c, .error e⟩ : Exchange MemoryError)) (Bool.and_false _) r.ids
    rw [hself]
    exact subset_rfl

/-- **The remote in memory does what its answers say.** -/
theorem transport_tracks : transport.Tracks ids := by
  constructor
  · intro c r
    cases c with
    | read id => exact attempt_made (.read id) (read id) r subset_rfl
    | write id payload =>
      refine attempt_made (.write id payload) (write id payload) r ?_
      simp only [write, ids_insert, ids_vanish]
      exact subset_rfl
    | delete id => exact attempt_made (.delete id) (delete id) r (ids_vanish r id).subset
    | create desired => exact attempt_made (.create desired) (create desired) r (ids_insert r _ desired).subset
  · intro id r habsent
    have hanswer : (attempt .read (read id) r).1 = .ok none := habsent
    unfold attempt at hanswer
    cases hf : r.failures .read with
    | cons e rest =>
      rw [hf] at hanswer
      cases hanswer
    | nil =>
      rw [hf] at hanswer
      have hget : r.resources.get? id = none := Except.ok.inj hanswer
      simp [mem_ids, hget]

end MemoryRemote

end Converge
