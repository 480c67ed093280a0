import Converge.Proofs.Applying
import Converge.Proofs.Memory
import Converge.Vault.Kinds

/-!
# Destroying a manifest

The resources of a manifest are destroyed from the last to the first, up to the first that is spared. `Destroying` is
the run, one constructor for each thing that can happen at an address: there is no record and it is skipped, its
resource is deleted and its record goes (`Deletes`), or it is spared and the run ends (`Spares`). Both deletions and
failures go by the record alone, whatever the manifest declares. Main theorem: `Workspace.destroyAll_forgets`.
-/

namespace Converge

variable {σ ε : Type}

/-! ## Records -/

namespace StateStore

variable {store : StateStore} {address : String}

theorem load_eq_none_iff : store.load address = .ok none ↔ store.contains address = false := by
  rw [contains, SortedMap.contains_eq, load]
  cases store.rows.get? address with
  | none => simp
  | some row =>
    simp only [Option.isSome_some, Bool.true_eq_false, iff_false]
    intro h
    cases hrow : decode address row with
    | error e =>
      rw [hrow] at h
      cases h
    | ok record =>
      rw [hrow] at h
      cases h

theorem contains_of_load {r : ResourceRecord} (h : store.load address = .ok (some r)) :
    store.contains address = true ∧ r.address = address := by
  have hrow := eq_row_of_load h
  rw [contains, SortedMap.contains_eq]
  cases hget : store.rows.get? address with
  | none =>
    rw [hget] at hrow
    cases hrow
  | some row =>
    rw [hget] at hrow
    simp only [Option.map_some, Option.some.injEq, Prod.mk.injEq] at hrow
    exact ⟨rfl, hrow.1⟩

theorem get?_remove (store : StateStore) (address a : String) :
    (store.remove address).rows.get? a = if address = a then none else store.rows.get? a :=
  SortedMap.get?_erase _ _ _

theorem contains_congr {store' : StateStore} {a : String} (h : store.rows.get? a = store'.rows.get? a) :
    store.contains a = store'.contains a := by
  rw [contains, contains, SortedMap.contains_eq, SortedMap.contains_eq, h]

end StateStore

namespace Workspace

variable [ToString ε]

/-! ## Destroying one resource -/

/-- The resource on record under an address is deleted: on the transport of the recorded kind, under the recorded id,
and at the last of one or more tries. Its record goes. -/
inductive Deletes (w : Workspace) (transports : Transports σ ε) (address : String) (s : Site σ) : Site σ → Prop
  | deleted {record t schema answers world} (load : s.store.load address = .ok (some record))
      (transport : transports record.kind = some t) (kind : w.registry.get? record.kind = some schema)
      (tries : Tries t.retryable w.retry.maxAttempts.toNat answers (.ok ()))
      (course : Course t s.world ((Call.delete record.remoteId).answered answers) world)
      (run : w.destroyResource record t s = (.ok (), ⟨world, s.store.remove address⟩)) :
    Deletes w transports address s ⟨world, s.store.remove address⟩

/-- What is on record under an address is spared, with an error. The record cannot be read, or its kind has no transport
or is unknown, and no call is made; or no try of the delete succeeds. The store stays as it is. -/
inductive Spares (w : Workspace) (transports : Transports σ ε) (address : String) (s : Site σ) :
    WorkspaceError ε → Site σ → Prop
  | unreadable {e} (load : s.store.load address = .error e) : Spares w transports address s (.state e) s
  | untransported {record} (load : s.store.load address = .ok (some record))
      (none : transports record.kind = none) : Spares w transports address s (.noTransport record.kind) s
  | unknown {record t} (load : s.store.load address = .ok (some record)) (transport : transports record.kind = some t)
      (kind : w.registry.get? record.kind = none) : Spares w transports address s (.unknownKind record.kind) s
  | undeleted {record t schema answers e world} (load : s.store.load address = .ok (some record))
      (transport : transports record.kind = some t) (kind : w.registry.get? record.kind = some schema)
      (tries : Tries t.retryable w.retry.maxAttempts.toNat answers (.error e))
      (course : Course t s.world ((Call.delete record.remoteId).answered answers) world)
      (run : w.destroyResource record t s =
        (.error (.reconcile address (.apply .delete answers.length e)), ⟨world, s.store⟩)) :
    Spares w transports address s (.reconcile address (.apply .delete answers.length e)) ⟨world, s.store⟩

section
variable {w : Workspace} {transports : Transports σ ε} {address : String} {s s' s₁ : Site σ} {e : WorkspaceError ε}

theorem Spares.store_eq (h : w.Spares transports address s e s') : s'.store = s.store := by
  cases h <;> rfl

theorem Deletes.store_eq (h : w.Deletes transports address s s') : s'.store = s.store.remove address := by
  cases h
  rfl

theorem Deletes.contains (h : w.Deletes transports address s s') : s.store.contains address = true := by
  cases h with
  | deleted load => exact (StateStore.contains_of_load load).1

/-- **How an address is destroyed**: there is no record, or what is on record is spared or deleted. -/
theorem absent_or_spares_or_deletes (w : Workspace) (transports : Transports σ ε) (address : String) (s : Site σ) :
    s.store.load address = .ok none ∨ (∃ e s', w.Spares transports address s e s') ∨
      ∃ s', w.Deletes transports address s s' := by
  cases load : s.store.load address with
  | error e => exact .inr (.inl ⟨_, s, .unreadable load⟩)
  | ok found =>
    cases found with
    | none => exact .inl rfl
    | some record =>
      obtain ⟨-, rfl⟩ := StateStore.contains_of_load load
      cases ht : transports record.kind with
      | none => exact .inr (.inl ⟨_, s, .untransported load ht⟩)
      | some t =>
        cases hk : w.registry.get? record.kind with
        | none => exact .inr (.inl ⟨_, s, .unknown load ht hk⟩)
        | some schema =>
          obtain ⟨answers, last, world, tries, course, run⟩ := destroyResource_of_run (t := t) (s := s) hk
          cases last with
          | error e => exact .inr (.inl ⟨_, _, .undeleted load ht hk tries course run⟩)
          | ok _ => exact .inr (.inr ⟨_, .deleted load ht hk tries course run⟩)

end

/-! ## Destroying one resource after the other -/

/-- A run over addresses destroys some of them, and ends with a result on a site. -/
inductive Destroying (w : Workspace) (transports : Transports σ ε) :
    List String → Site σ → List String → Except (WorkspaceError ε) (List String) → Site σ → Prop
  | done {s} : Destroying w transports [] s [] (.ok []) s
  | skip {address addresses s destroyed result s'} (absent : s.store.load address = .ok none)
      (rest : Destroying w transports addresses (s.logged .info (address ++ ": not recorded, skipping")) destroyed
        result s') :
      Destroying w transports (address :: addresses) s destroyed result s'
  | delete {address addresses s s₁ destroyed result s'} (first : w.Deletes transports address s s₁)
      (rest : Destroying w transports addresses s₁ destroyed result s') :
      Destroying w transports (address :: addresses) s (address :: destroyed) (result.map (address :: ·)) s'
  | stop {address addresses s e s'} (spares : w.Spares transports address s e s') :
      Destroying w transports (address :: addresses) s [] (.error e) s'

section
variable {w : Workspace} {transports : Transports σ ε} {d : Declaration} {ds : List Declaration} {s s' s₁ : Site σ}
  {e : WorkspaceError ε}

theorem destroyEach_of_absent (h : s.store.load d.address = .ok none) : w.destroyEach transports (d :: ds) s =
    w.destroyEach transports ds (s.logged .info (d.address ++ ": not recorded, skipping")) := by
  rw [destroyEach, bind_of_ok (load_of_ok h)]
  rfl

theorem destroyEach_cons {record : ResourceRecord} {t : Transport σ ε} (h : s.store.load d.address = .ok (some record))
    (ht : transports record.kind = some t) : w.destroyEach transports (d :: ds) s = (do
      w.destroyResource record t
      return record.address :: (← w.destroyEach transports ds)) s := by
  rw [destroyEach, bind_of_ok (load_of_ok h)]
  exact bind_of_ok (transportFor_of_some ht s)

theorem Spares.destroyEach (h : w.Spares transports d.address s e s') (ds : List Declaration) :
    w.destroyEach transports (d :: ds) s = (.error e, s') := by
  cases h with
  | unreadable load => rw [Workspace.destroyEach, bind_of_error (load_of_error load)]
  | untransported load none =>
    rw [Workspace.destroyEach, bind_of_ok (load_of_ok load)]
    exact bind_of_error (transportFor_of_none none s)
  | unknown load transport kind =>
    rw [destroyEach_cons load transport, bind_of_error (destroyResource_of_unknown kind)]
  | undeleted load transport _ _ _ run => rw [destroyEach_cons load transport, bind_of_error run]

theorem Deletes.destroyEach (h : w.Deletes transports d.address s s₁)
    {rest : Except (WorkspaceError ε) (List String)} (hds : w.destroyEach transports ds s₁ = (rest, s')) :
    w.destroyEach transports (d :: ds) s = (rest.map (d.address :: ·), s') := by
  cases h with
  | deleted load transport _ _ _ run =>
    rw [destroyEach_cons load transport, bind_of_ok run, (StateStore.contains_of_load load).2]
    cases rest with
    | error e => exact bind_of_error hds
    | ok rest => exact bind_of_ok hds

/-- **Every run is of the form that `Destroying` lists.** -/
theorem destroyEach_destroying (w : Workspace) (transports : Transports σ ε) (ds : List Declaration) (s : Site σ) :
    ∃ destroyed result s', w.destroyEach transports ds s = (result, s') ∧
      w.Destroying transports (ds.map (·.address)) s destroyed result s' := by
  induction ds generalizing s with
  | nil => exact ⟨[], .ok [], s, rfl, .done⟩
  | cons d ds ih =>
    rcases absent_or_spares_or_deletes w transports d.address s with absent | ⟨e, s', spares⟩ | ⟨s₁, first⟩
    · obtain ⟨destroyed, result, s', hrun, rest⟩ := ih (s.logged .info (d.address ++ ": not recorded, skipping"))
      exact ⟨destroyed, result, s', (destroyEach_of_absent absent).trans hrun, .skip absent rest⟩
    · exact ⟨[], .error e, s', spares.destroyEach ds, .stop spares⟩
    · obtain ⟨destroyed, result, s', hrun, rest⟩ := ih s₁
      exact ⟨_, _, s', first.destroyEach hrun, .delete first rest⟩

end

section
variable {w : Workspace} {transports : Transports σ ε} {addresses destroyed : List String} {s s' : Site σ}
  {result : Except (WorkspaceError ε) (List String)}

/-- **A run forgets what it destroyed** and leaves all other records alone. -/
theorem Destroying.rows (h : w.Destroying transports addresses s destroyed result s') (a : String) :
    s'.store.rows.get? a = if a ∈ destroyed then none else s.store.rows.get? a := by
  induction h with
  | done => simp
  | skip _ _ ih => exact ih
  | @delete address addresses s s₁ destroyed result s' first _ ih =>
    rw [ih, first.store_eq, StateStore.get?_remove]
    by_cases ha : address = a
    · simp [ha]
    · simp [ha, Ne.symm ha]
  | stop spares => simp [spares.store_eq]

theorem Destroying.contains_after (h : w.Destroying transports addresses s destroyed result s') (a : String) :
    s'.store.contains a = (s.store.contains a && !decide (a ∈ destroyed)) := by
  rw [StateStore.contains, SortedMap.contains_eq, h.rows, StateStore.contains, SortedMap.contains_eq]
  by_cases ha : a ∈ destroyed <;> simp [ha]

/-- What is on record of the later addresses when the first one is done with is what was on record at the start. -/
theorem filter_contains_remove {address : String} {store : StateStore} (h : address ∉ addresses) :
    addresses.filter (store.remove address).contains = addresses.filter store.contains := by
  refine List.filter_congr fun a ha => StateStore.contains_congr ?_
  have hne : address ≠ a := fun he => h (he ▸ ha)
  rw [StateStore.get?_remove, if_neg hne]

/-- **How far a run gets**: it visits all addresses, or those before the first that is spared, and of the visited ones
it destroys what is on record, in their order. -/
theorem Destroying.visited (h : w.Destroying transports addresses s destroyed result s') (hnodup : addresses.Nodup) :
    ∃ visited left, addresses = visited ++ left ∧ destroyed = visited.filter s.store.contains ∧
      ((left = [] ∧ result = .ok destroyed) ∨ ∃ address rest e s₁, left = address :: rest ∧ result = .error e ∧
        s₁.store = s'.store ∧ w.Spares transports address s₁ e s') := by
  induction h with
  | done => exact ⟨[], [], rfl, rfl, .inl ⟨rfl, rfl⟩⟩
  | @skip address addresses s destroyed result s' absent rest ih =>
    obtain ⟨visited, left, rfl, hdestroyed, hend⟩ := ih (List.nodup_cons.1 hnodup).2
    refine ⟨address :: visited, left, rfl, ?_, hend⟩
    rw [hdestroyed, List.filter_cons_of_neg (by simp [StateStore.load_eq_none_iff.1 absent])]
    rfl
  | @delete address addresses s s₁ destroyed result s' first rest ih =>
    obtain ⟨hnew, hnodup⟩ := List.nodup_cons.1 hnodup
    obtain ⟨visited, left, rfl, hdestroyed, hend⟩ := ih hnodup
    have hnew : address ∉ visited := fun hmem => hnew (List.mem_append_left _ hmem)
    refine ⟨address :: visited, left, rfl, ?_, hend.imp ?_ ?_⟩
    · rw [List.filter_cons_of_pos first.contains, hdestroyed, first.store_eq, filter_contains_remove hnew]
    · rintro ⟨rfl, rfl⟩
      exact ⟨rfl, rfl⟩
    · rintro ⟨stopped, later, e, s₂, rfl, rfl, hspares⟩
      exact ⟨stopped, later, e, s₂, rfl, rfl, hspares⟩
  | @stop address addresses s e s' spares =>
    exact ⟨[], _, rfl, rfl, .inr ⟨address, addresses, e, s, rfl, rfl, spares.store_eq.symm, spares⟩⟩

/-- What a run destroys is among its addresses, and was on record. -/
theorem Destroying.mem (h : w.Destroying transports addresses s destroyed result s') (hnodup : addresses.Nodup)
    {a : String} (ha : a ∈ destroyed) : a ∈ addresses ∧ s.store.contains a = true := by
  obtain ⟨visited, left, rfl, rfl, _⟩ := h.visited hnodup
  obtain ⟨hvisited, hcontains⟩ := List.mem_filter.1 ha
  exact ⟨List.mem_append_left _ hvisited, hcontains⟩

/-- A run that succeeds returns what it destroyed, and that is all that is on record. -/
theorem Destroying.of_ok (h : w.Destroying transports addresses s destroyed result s') (hnodup : addresses.Nodup)
    {returned : List String} (hresult : result = .ok returned) :
    returned = destroyed ∧ destroyed = addresses.filter s.store.contains := by
  obtain ⟨visited, left, rfl, hdestroyed, ⟨rfl, rfl⟩ | ⟨_, _, _, _, _, rfl, _⟩⟩ := h.visited hnodup
  · cases hresult
    exact ⟨rfl, by rw [hdestroyed, List.append_nil]⟩
  · cases hresult

/-- A run that succeeds leaves no record of its addresses. -/
theorem Destroying.get?_eq_none (h : w.Destroying transports addresses s destroyed result s') (hnodup : addresses.Nodup)
    {returned : List String} (hresult : result = .ok returned) {a : String} (ha : a ∈ addresses) :
    s'.store.rows.get? a = none := by
  rw [h.rows]
  cases hc : s.store.contains a with
  | true => exact if_pos ((h.of_ok hnodup hresult).2 ▸ List.mem_filter.2 ⟨ha, hc⟩)
  | false =>
    have hnone : s.store.rows.get? a = none := by simpa [StateStore.contains] using hc
    rw [hnone, ite_self]

end

end Workspace

/-! ## Runs that nothing hinders -/

/-- While the remote is quiet, which it stays, a delete succeeds. -/
def Transport.DeletesIn (t : Transport σ ε) (quiet : σ → Prop) : Prop :=
  ∀ id s, quiet s → (t.operation (.delete id) ⟨s, []⟩).1 = .ok () ∧ quiet (t.operation (.delete id) ⟨s, []⟩).2.remote

theorem Transport.Keeps.deletesIn {t : Transport σ ε} {memory : σ → MemoryRemote} {quiet : σ → Prop}
    (h : t.Keeps memory quiet) : t.DeletesIn quiet := by
  refine fun id s hquiet => ⟨?_, h.quiet _ s hquiet⟩
  cases hanswer : (t.operation (.delete id) ⟨s, []⟩).1 with
  | error e => exact absurd hquiet (h.failed _ s e hanswer).2
  | ok _ => rfl

/-- In a quiet remote the first try of a delete succeeds. -/
theorem Transport.DeletesIn.of_tries {t : Transport σ ε} {quiet : σ → Prop} {retryable : ε → Bool} {bound : Nat}
    {id : String} {answers : List (Except ε Unit)} {last : Except ε Unit} {s s' : σ} (h : t.DeletesIn quiet)
    (tries : Tries retryable bound answers last)
    (hreplay : t.replay (((Call.delete id).answered answers).map (·.call)) s = ((Call.delete id).answered answers, s'))
    (hquiet : quiet s) : last = .ok () ∧ quiet s' := by
  obtain ⟨failed, rfl, -⟩ := tries.earlier
  obtain ⟨hdeleted, hstill⟩ := h id s hquiet
  cases failed with
  | nil =>
    obtain ⟨hanswer, hrest⟩ := replay_cons_iff.1 hreplay
    cases hrest
    exact ⟨hanswer.symm.trans hdeleted, hstill⟩
  | cons e failed =>
    have hanswer := (replay_cons_iff.1 hreplay).1.symm.trans hdeleted
    cases hanswer

namespace Workspace

/-- Nothing hinders the destruction of what is on record: each record can be read, its kind is known, and the transport
of this kind deletes in a quiet remote. -/
def Unhindered (w : Workspace) (transports : Transports σ ε) (quiet : σ → Prop) (store : StateStore)
    (addresses : List String) : Prop :=
  ∀ address ∈ addresses, ∃ found, store.load address = .ok found ∧ ∀ record, found = some record →
    (∃ schema, w.registry.get? record.kind = some schema) ∧
      ∃ t, transports record.kind = some t ∧ t.DeletesIn quiet

section
variable {w : Workspace} {transports : Transports σ ε} {quiet : σ → Prop} {addresses : List String}
  {store store' : StateStore}

theorem Unhindered.of_load (h : w.Unhindered transports quiet store addresses) {address : String}
    (ha : address ∈ addresses) {record : ResourceRecord} (load : store.load address = .ok (some record)) :
    (∃ schema, w.registry.get? record.kind = some schema) ∧
      ∃ t, transports record.kind = some t ∧ t.DeletesIn quiet := by
  obtain ⟨found, hload, hrecord⟩ := h address ha
  rw [load] at hload
  cases hload
  exact hrecord _ rfl

theorem Unhindered.of_rows (h : w.Unhindered transports quiet store addresses)
    (hrows : ∀ address ∈ addresses, store'.rows.get? address = store.rows.get? address) :
    w.Unhindered transports quiet store' addresses := by
  intro address ha
  rw [StateStore.load_congr (hrows address ha)]
  exact h address ha

end

variable [ToString ε] {w : Workspace} {transports : Transports σ ε} {addresses destroyed : List String}
  {address : String} {s s' : Site σ} {quiet : σ → Prop} {e : WorkspaceError ε}
  {result : Except (WorkspaceError ε) (List String)}

section
variable (h : w.Unhindered transports quiet s.store addresses) (ha : address ∈ addresses)
  (hquiet : quiet s.world.remote)
include h ha hquiet

theorem Unhindered.not_spares : ¬ w.Spares transports address s e s' := by
  intro hspares
  cases hspares with
  | unreadable load =>
    obtain ⟨found, hload, _⟩ := h address ha
    rw [load] at hload
    cases hload
  | untransported load none =>
    obtain ⟨_, t, ht, _⟩ := h.of_load ha load
    rw [none] at ht
    cases ht
  | unknown load _ kind =>
    obtain ⟨⟨schema, hk⟩, _⟩ := h.of_load ha load
    rw [kind] at hk
    cases hk
  | undeleted load transport _ tries course =>
    obtain ⟨_, t, ht, hdeletes⟩ := h.of_load ha load
    rw [transport] at ht
    cases ht
    cases (hdeletes.of_tries tries course.remote hquiet).1

theorem Unhindered.quiet_of_deletes (hfirst : w.Deletes transports address s s') : quiet s'.world.remote := by
  cases hfirst with
  | deleted load transport _ tries course =>
    obtain ⟨_, t, ht, hdeletes⟩ := h.of_load ha load
    rw [transport] at ht
    cases ht
    exact (hdeletes.of_tries tries course.remote hquiet).2

end

/-- **A run that nothing hinders succeeds.** -/
theorem Destroying.ok_of_unhindered (h : w.Destroying transports addresses s destroyed result s')
    (hnodup : addresses.Nodup) (hclear : w.Unhindered transports quiet s.store addresses)
    (hquiet : quiet s.world.remote) : ∃ returned, result = .ok returned := by
  induction h with
  | done => exact ⟨[], rfl⟩
  | @skip address addresses s destroyed result s' absent rest ih =>
    exact ih (List.nodup_cons.1 hnodup).2 (fun a ha => hclear a (List.mem_cons_of_mem _ ha)) hquiet
  | @delete address addresses s s₁ destroyed result s' first rest ih =>
    obtain ⟨hnew, hnodup⟩ := List.nodup_cons.1 hnodup
    have hrest : w.Unhindered transports quiet s.store addresses := fun a ha => hclear a (List.mem_cons_of_mem _ ha)
    have hclear' : w.Unhindered transports quiet s₁.store addresses := hrest.of_rows fun a ha => by
      have hne : address ≠ a := fun he => hnew (he ▸ ha)
      rw [first.store_eq, StateStore.get?_remove, if_neg hne]
    obtain ⟨returned, rfl⟩ := ih hnodup hclear' (hclear.quiet_of_deletes List.mem_cons_self hquiet first)
    exact ⟨address :: returned, rfl⟩
  | stop spares => exact absurd spares (hclear.not_spares List.mem_cons_self hquiet)

end Workspace

/-! ## Destroying a manifest -/

/-- The addresses of a manifest, the last one first. -/
def Manifest.backwards (m : Manifest) : List String := m.resources.reverse.map (·.address)

theorem Manifest.nodup_backwards {m : Manifest} {registry : Registry} (h : m.validate registry = .ok ()) :
    m.backwards.Nodup := by
  rw [backwards, List.map_reverse, List.nodup_reverse]
  exact nodup_of_validate h

namespace Workspace

variable [ToString ε]

theorem destroyAll_destroying {w : Workspace} {m : Manifest} (hvalid : m.validate w.registry = .ok ())
    (transports : Transports σ ε) (s : Site σ) :
    ∃ destroyed result s', w.destroyAll m transports s = (result, s') ∧
      w.Destroying transports m.backwards s destroyed result s' := by
  have hcheck : w.validate (ε := ε) m s = (.ok (), s) := ofExcept_eq (by rw [hvalid]; rfl) s
  obtain ⟨destroyed, result, s', hrun, hdestroying⟩ := destroyEach_destroying w transports m.resources.reverse s
  exact ⟨destroyed, result, s', (bind_of_ok hcheck).trans hrun, hdestroying⟩

/-- **What is destroyed is forgotten, and nothing else.** An invalid manifest is refused on the site as it is. A valid
one is destroyed from its last address to its first: all addresses are visited, or those before the first that is
spared, and of these exactly what is on record is destroyed, and returned in this order if nothing was spared. The
records of what was destroyed are gone, and no other record has changed. Running it again afterwards, in whatever
world, destroys only what is left on record of the manifest; if that succeeds no record of the manifest is left, and
it does succeed where nothing hinders it. -/
theorem destroyAll_forgets (w : Workspace) (m : Manifest) (transports : Transports σ ε) (s : Site σ) :
    match m.validate w.registry with
    | .error e => w.destroyAll m transports s = (.error (.manifest e), s)
    | .ok () => ∃ destroyed result s', w.destroyAll m transports s = (result, s') ∧
      w.Destroying transports m.backwards s destroyed result s' ∧
      (∃ visited left, m.backwards = visited ++ left ∧ destroyed = visited.filter s.store.contains ∧
        ((left = [] ∧ result = .ok destroyed) ∨ ∃ address rest e s₁, left = address :: rest ∧ result = .error e ∧
          s₁.store = s'.store ∧ w.Spares transports address s₁ e s')) ∧
      (∀ a, s'.store.rows.get? a = if a ∈ destroyed then none else s.store.rows.get? a) ∧
      ∀ (w' : Workspace) (transports' : Transports σ ε) (again : Site σ), m.validate w'.registry = .ok () →
        again.store = s'.store →
        ∃ destroyed' result' s'', w'.destroyAll m transports' again = (result', s'') ∧
          w'.Destroying transports' m.backwards again destroyed' result' s'' ∧
          (∀ a ∈ destroyed', a ∈ m.backwards ∧ s.store.contains a = true ∧ a ∉ destroyed) ∧
          (∀ returned, result' = .ok returned →
            returned = m.backwards.filter (fun a => s.store.contains a && !decide (a ∈ destroyed)) ∧
            ∀ a, s''.store.rows.get? a = if a ∈ m.backwards then none else s.store.rows.get? a) ∧
          ∀ quiet : σ → Prop, quiet again.world.remote → w'.Unhindered transports' quiet again.store m.backwards →
            ∃ returned, result' = .ok returned := by
  cases hvalid : m.validate w.registry with
  | error e => exact bind_of_error (ofExcept_eq (by rw [hvalid]; rfl) s)
  | ok _ =>
    have hnodup := Manifest.nodup_backwards hvalid
    obtain ⟨destroyed, result, s', hrun, hfirst⟩ := destroyAll_destroying hvalid transports s
    refine ⟨destroyed, result, s', hrun, hfirst, hfirst.visited hnodup, hfirst.rows,
      fun w' transports' again hvalid' hstore => ?_⟩
    obtain ⟨destroyed', result', s'', hrun', hsecond⟩ := destroyAll_destroying hvalid' transports' again
    have hleft := hfirst.contains_after
    rw [← hstore] at hleft
    refine ⟨destroyed', result', s'', hrun', hsecond, fun a ha => ?_, fun returned hok => ?_,
      fun quiet hquiet hclear => hsecond.ok_of_unhindered hnodup hclear hquiet⟩
    · obtain ⟨hmem, hcontains⟩ := hsecond.mem hnodup ha
      rw [hleft] at hcontains
      exact ⟨hmem, by simpa using hcontains⟩
    · obtain ⟨rfl, hreturned⟩ := hsecond.of_ok hnodup hok
      refine ⟨hreturned.trans (List.filter_congr fun a _ => hleft a), fun a => ?_⟩
      by_cases ha : a ∈ m.backwards
      · rw [if_pos ha]
        exact hsecond.get?_eq_none hnodup hok ha
      · have hfirst' : a ∉ destroyed := fun hmem => ha (hfirst.mem hnodup hmem).1
        have hsecond' : a ∉ returned := fun hmem => ha (hsecond.mem hnodup hmem).1
        rw [hsecond.rows, if_neg hsecond', hstore, hfirst.rows, if_neg hfirst', if_neg ha]

def threeKeys : Manifest where
  resources :=
    let key (name : String) : FieldMap := .ofList [("backend", .string "transit"), ("name", .string name)]
    [⟨"first", "vault_transit_key", key "orders"⟩, ⟨"second", "vault_transit_key", key "payments"⟩,
      ⟨"third", "vault_transit_key", key "team"⟩]

/-- The first key is on record, and the third one as a mount; so is a mount of no manifest. The next delete fails. -/
def oneMount : Site MemoryRemote where
  world := ⟨(MemoryRemote.empty "name").fail .delete [⟨"busy", true⟩], []⟩
  store := ((StateStore.empty.save ⟨"first", "vault_transit_key", "orders", .empty⟩).save
    ⟨"third", "vault_mount", "team", .empty⟩).save ⟨"other", "vault_mount", "kept", .empty⟩

/-- Where there is a transport for mounts only, the third resource is deleted at the second try, and the run ends at the
first, which the run after that deletes. -/
theorem destroyAll_forgets_twoRuns :
    let w : Workspace := ⟨Vault.registry, .ofAttempts 2 .zero⟩
    let mounts : Transports MemoryRemote MemoryError :=
      fun kind => if kind = "vault_mount" then some MemoryRemote.transport else none
    ∃ s', w.destroyAll threeKeys mounts oneMount = (.error (.noTransport "vault_transit_key"), s') ∧
      ∃ s'', w.destroyAll threeKeys (fun _ => some MemoryRemote.transport) s' = (.ok ["first"], s'') ∧
        ∀ a, s''.store.rows.get? a = if a ∈ threeKeys.backwards then none else oneMount.store.rows.get? a := by
  intro w mounts
  have hvalid : threeKeys.validate w.registry = .ok () := by decide +kernel
  have hresult : (w.destroyAll threeKeys mounts oneMount).1 = .error (.noTransport "vault_transit_key") := by
    decide +kernel
  have hstore : (w.destroyAll threeKeys mounts oneMount).2.store =
      (StateStore.empty.save ⟨"first", "vault_transit_key", "orders", .empty⟩).save
        ⟨"other", "vault_mount", "kept", .empty⟩ := by
    decide +kernel
  have hquiet : (w.destroyAll threeKeys mounts oneMount).2.world.remote.failures = fun _ => [] := by
    funext kind
    cases kind <;> decide +kernel
  have h := destroyAll_forgets w threeKeys mounts oneMount
  simp only [hvalid] at h
  obtain ⟨destroyed, result, s', hrun, hfirstRun, -, -, hagain⟩ := h
  rw [hrun] at hresult hstore hquiet
  cases hresult
  change s'.store = _ at hstore
  have hbackwards : threeKeys.backwards = ["third", "second", "first"] := rfl
  have hfirst : s'.store.load "first" = .ok (some ⟨"first", "vault_transit_key", "orders", .empty⟩) := by
    rw [hstore]
    decide +kernel
  have hothers : s'.store.load "third" = .ok none ∧ s'.store.load "second" = .ok none := by
    rw [hstore]
    decide +kernel
  have hclear : w.Unhindered (fun _ => some MemoryRemote.transport)
      (fun r : MemoryRemote => r.failures = fun _ => []) s'.store threeKeys.backwards := by
    rw [hbackwards]
    simp only [Unhindered, List.forall_mem_cons, List.not_mem_nil, false_imp_iff, implies_true, and_true]
    refine ⟨⟨none, hothers.1, nofun⟩, ⟨none, hothers.2, nofun⟩, _, hfirst, ?_⟩
    rintro _ ⟨⟩
    exact ⟨Option.isSome_iff_exists.1 (by decide +kernel), _, rfl, MemoryRemote.transport_keeps.deletesIn⟩
  obtain ⟨_, result', s'', hrun', -, -, hok, hsucceeds⟩ :=
    hagain w (fun _ => some MemoryRemote.transport) s' hvalid rfl
  obtain ⟨returned, rfl⟩ := hsucceeds _ hquiet hclear
  obtain ⟨hreturned, hleft⟩ := hok _ rfl
  have hone : returned = ["first"] := by
    rw [hreturned, hbackwards, ← funext hfirstRun.contains_after, hstore]
    decide +kernel
  exact ⟨s', hrun, s'', hone ▸ hrun', hleft⟩

end Workspace

end Converge
