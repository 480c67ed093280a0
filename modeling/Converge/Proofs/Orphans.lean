import Mathlib.Logic.Relation
import Converge.Proofs.Remotes
import Converge.Proofs.Sites
import Converge.Vault.Kinds

/-!
# No resource is orphaned

A resource that exists but is recorded nowhere is lost to its workspace: nobody will ever update or destroy
it. That this does not happen rests on the order in which a workspace changes the remote and its store. A
record is overwritten only when the id that it held is gone (`Reconciler.Ran.leaves_of_ok`), and forgotten
only when the resource is. The step lemma is `Workspace.Step.recorded`; main theorem:
`Workspace.recorded_of_reachable`.
-/

namespace Converge

variable {σ ε : Type}

open History

/-! ## Runs of the reconciler -/

namespace Accounts

variable {known : Option String} {history : History ε} {ids : Set String}

theorem leaves_of_error {e : ReconcileError ε} (h : Accounts known history (.error e)) :
    leaves history ids ⊆ ids := by
  rw [← leaves_effects]
  exact leaves_subset h.1 ids

/-- What a success leaves is the resource that is now known, and others than the one that was known. A
create tells nothing about the latter, so that it is gone has to be known. -/
theorem leaves_of_ok {outcome : Outcome} (h : Accounts known history (.ok outcome))
    (hgone : ∀ newId, outcome = .created newId → ∀ i ∈ ids, known ≠ some i) {i : String}
    (hi : i ∈ leaves history ids) : outcome.newId.or known = some i ∨ (i ∈ ids ∧ known ≠ some i) := by
  rw [← leaves_effects] at hi
  cases outcome with
  | unchanged =>
    rw [effects_of_reads h] at hi
    by_cases hk : known = some i
    · exact .inl hk
    · exact .inr ⟨hi, hk⟩
  | created newId =>
    obtain ⟨desired, heffects⟩ := h
    rw [heffects] at hi
    rcases Set.mem_insert_iff.1 hi with rfl | hi
    · exact .inl rfl
    · exact .inr ⟨hi, hgone newId rfl i hi⟩
  | updated fields movedTo =>
    obtain ⟨id, payload, rfl, heffects⟩ := h
    rw [heffects] at hi
    rcases Set.mem_insert_iff.1 hi with rfl | ⟨hi, hne⟩
    · cases movedTo with
      | none => exact .inl rfl
      | some newId => exact .inl rfl
    · refine .inr ⟨hi, ?_⟩
      rintro ⟨⟩
      exact hne rfl
  | replaced previous newId =>
    obtain ⟨rfl, desired, heffects⟩ := h
    rw [heffects] at hi
    rcases Set.mem_insert_iff.1 hi with rfl | ⟨hi, hne⟩
    · exact .inl rfl
    · refine .inr ⟨hi, ?_⟩
      rintro ⟨⟩
      exact hne rfl

end Accounts

namespace Reconciler

variable {r : Reconciler} {t : Transport σ ε} {known : Option String} {desired : FieldMap} {a : Action}
  {ids : σ → Set String} {s s' : σ} {reads changes history : History ε}
  {found : Except (ReconcileError ε) (Option FieldMap)}

/-- What is read as absent is gone. -/
theorem Reading.gone (ht : t.Tracks ids) (h : r.Reading t known reads (.ok none))
    (hreplay : t.replay (reads.map (·.call)) s = (reads, s')) {i : String} (hi : i ∈ ids s') :
    known ≠ some i := by
  rintro rfl
  generalize hf : Except.ok none = found at h
  cases h with
  | @made _ answers last tries =>
    cases last with
    | error e => cases hf
    | ok remote =>
      cases hf
      obtain ⟨failed, rfl, _⟩ := tries.earlier
      rw [Call.answered, List.map_append, Transport.replay_append_iff] at hreplay
      obtain ⟨s₁, _, hlast⟩ := hreplay
      obtain ⟨hanswer, hrest⟩ := Transport.replay_cons_iff.1 hlast
      cases hrest
      have hread : ids (t.exchange (.read i) s₁).2 ⊆ ids s₁ := by
        have hleaves := ht.made (.read i) s₁
        rwa [Exchange.leaves_eq_self rfl] at hleaves
      exact ht.absent i s₁ hanswer (hread hi)

theorem Changing.create_of_created {newId : String} (h : r.Changing t known a changes (.ok (.created newId))) :
    ∃ d, a = .create d := by
  generalize hr : Except.ok (Outcome.created newId) = result at h
  cases h with
  | create => exact ⟨_, rfl⟩
  | noop | keep | updateUnknown | replaceUnknown => cases hr
  | @update _ _ _ _ last => cases last <;> cases hr
  | @replace _ _ _ _ _ last => cases last <;> cases hr

/-- A failed run leaves at most what there was. -/
theorem Ran.leaves_of_error (ht : t.Tracks ids) {e : ReconcileError ε}
    (h : r.Ran t known desired found history (.error e))
    (hreplay : t.replay (history.map (·.call)) s = (history, s')) : ids s' ⊆ ids s :=
  (ht.replay hreplay).trans h.accounts.leaves_of_error

/-- **A successful run leaves the resource that is now known**, and of those that there were, others than the
one that was known. -/
theorem Ran.leaves_of_ok (ht : t.Tracks ids) {outcome : Outcome}
    (h : r.Ran t known desired found history (.ok outcome))
    (hreplay : t.replay (history.map (·.call)) s = (history, s')) {i : String} (hi : i ∈ ids s') :
    outcome.newId.or known = some i ∨ (i ∈ ids s ∧ known ≠ some i) := by
  cases h with
  | @applied d reads remote a changes _ hd reading plan changing =>
    obtain ⟨s₁, hreads, hchanges⟩ := Transport.replay_append_iff.1 hreplay
    have hleft : i ∈ leaves changes (ids s₁) := ht.replay hchanges hi
    have hbefore : ids s₁ ⊆ ids s := ht.replay_of_reads hreads reading.isMutating
    have haccounts : Accounts known ([] ++ changes) (.ok outcome) := changing.accounts nofun
    have hgone : ∀ newId, outcome = .created newId → ∀ i ∈ ids s₁, known ≠ some i := by
      rintro newId rfl i hi
      obtain ⟨d', rfl⟩ := changing.create_of_created
      -- a resource is created only where none was read
      rcases Plan.compute_single_cases plan hd with ⟨rfl, _⟩ | ⟨_, _, _, _, ha⟩
      · exact reading.gone ht hreads hi
      · rcases ha with ha | ⟨_, ha⟩ | ⟨_, _, ha⟩ <;> cases ha
    rcases haccounts.leaves_of_ok hgone hleft with hnow | ⟨hi, hne⟩
    · exact .inl hnow
    · exact .inr ⟨hbefore hi, hne⟩

end Reconciler

/-! ## Records -/

namespace StateStore

/-- There is a record of a resource of this kind under this id. -/
def Holds (store : StateStore) (kind id : String) : Prop :=
  ∃ address row, store.rows.get? address = some row ∧ row.kind = kind ∧ row.remoteId = id

variable {store store' : StateStore} {kind id address : String}

/-- A record stays where only another address changes, or one whose record is of another resource. -/
theorem Holds.of_changed_at (h : store.Holds kind id)
    (hothers : ∀ a, a ≠ address → store'.rows.get? a = store.rows.get? a)
    (hrow : ∀ row, store.rows.get? address = some row → row.kind = kind → row.remoteId ≠ id) :
    store'.Holds kind id := by
  obtain ⟨a, row, hget, hkind, hid⟩ := h
  have hne : a ≠ address := by
    rintro rfl
    exact hrow row hget hkind hid
  exact ⟨a, row, by rw [hothers a hne, hget], hkind, hid⟩

theorem Holds.save {r : ResourceRecord} (h : store.Holds kind id)
    (hrow : ∀ row, store.rows.get? r.address = some row → row.kind = kind → row.remoteId ≠ id) :
    (store.save r).Holds kind id := by
  refine h.of_changed_at (fun a hne => ?_) hrow
  simp [StateStore.save, hne.symm]

theorem Holds.remove (h : store.Holds kind id)
    (hrow : ∀ row, store.rows.get? address = some row → row.kind = kind → row.remoteId ≠ id) :
    (store.remove address).Holds kind id := by
  refine h.of_changed_at (fun a hne => ?_) hrow
  simp [StateStore.remove, hne.symm]

theorem Holds.noted {d : Declaration} (h : store.Holds kind id)
    (hrow : ∀ row, store.rows.get? d.address = some row → row.kind = kind → row.remoteId ≠ id)
    (known : Option String) : (store.noted d known).Holds kind id := by
  cases known with
  | none => exact h
  | some i => exact h.save hrow

theorem Holds.without (h : store.Holds kind id)
    (hrow : ∀ row, store.rows.get? address = some row → row.kind = kind → row.remoteId ≠ id)
    (result : Except ε Unit) : (store.without address result).Holds kind id := by
  cases result with
  | error e => exact h
  | ok _ => exact h.remove hrow

theorem Holds.after {d : Declaration} (h : store.Holds kind id)
    (hrow : ∀ row, store.rows.get? d.address = some row → row.kind = kind → row.remoteId ≠ id)
    (known : Option String) (result : Except (ReconcileError ε) Outcome) :
    (store.after d known result).Holds kind id := by
  cases result with
  | error e => exact h
  | ok outcome => exact h.noted hrow _

theorem holds_noted (store : StateStore) (d : Declaration) (id : String) :
    (store.noted d (some id)).Holds d.kind id := by
  refine ⟨d.address, ⟨d.kind, id, d.fields.toText⟩, ?_, rfl, rfl⟩
  simp [StateStore.noted, StateStore.save]

end StateStore

/-! ## Steps of a workspace -/

/-- Every resource that exists is on record. -/
def Site.Recorded (ids : σ → String → Set String) (s : Site σ) : Prop :=
  ∀ kind, ∀ id ∈ ids s.world.remote kind, s.store.Holds kind id

namespace Workspace

variable {ids : σ → String → Set String} {w : Workspace} {t : Transport σ ε} {s : Site σ}

/-- Where nothing comes to exist and the store is left alone, everything stays on record. -/
theorem recorded_of_subset (h : s.Recorded ids) {w' : World σ}
    (hsub : ∀ kind, ids w'.remote kind ⊆ ids s.world.remote kind) : Site.Recorded ids ⟨w', s.store⟩ :=
  fun kind id hid => h kind id (hsub kind hid)

/-- A loaded record is what the row of its address says. -/
theorem row_of_load {store : StateStore} {address : String} {record : ResourceRecord}
    (hload : store.load address = .ok (some record)) {row : StoredRow}
    (hrow : store.rows.get? record.address = some row) :
    row.kind = record.kind ∧ row.remoteId = record.remoteId := by
  have heq := StateStore.eq_row_of_load hload
  cases hget : store.rows.get? address with
  | none =>
    rw [hget] at heq
    cases heq
  | some row' =>
    rw [hget] at heq
    simp only [Option.map_some, Option.some.injEq, Prod.mk.injEq] at heq
    obtain ⟨haddress, hkind, hid⟩ := heq
    rw [haddress, hget] at hrow
    cases hrow
    exact ⟨hkind.symm, hid.symm⟩

theorem subset_of_reads {kind : String} (ht : t.Serves ids kind) {reads : History ε} {w₁ w₂ : World σ}
    (hcourse : Course t w₁ reads w₂) (hreads : ∀ x ∈ reads, x.call.isMutating = false) (k : String) :
    ids w₂.remote k ⊆ ids w₁.remote k := by
  by_cases hk : k = kind
  · subst hk
    exact ht.tracks.replay_of_reads hcourse.remote hreads
  · exact (ht.spares k hk).replay hcourse.remote

variable [ToString ε]

/-- Planning makes reads at most, and leaves the store alone. -/
theorem planResource_reads (w : Workspace) (d : Declaration) (t : Transport σ ε) (s : Site σ) :
    ∃ reads w', Course t s.world reads w' ∧ (∀ x ∈ reads, x.call.isMutating = false) ∧
      (w.planResource d t s).2 = ⟨w', s.store⟩ := by
  have hstop : ∀ {e : WorkspaceError ε}, w.planResource d t s = (.error e, s) → ∃ reads w',
      Course t s.world reads w' ∧ (∀ x ∈ reads, x.call.isMutating = false) ∧
        (w.planResource d t s).2 = ⟨w', s.store⟩ :=
    fun h => ⟨[], s.world, Course.refl s.world, nofun, by rw [h]⟩
  cases hk : w.registry.get? d.kind with
  | none => exact hstop (planResource_of_unknown hk)
  | some schema =>
    cases hd : schema.resolveDesired d.fields with
    | error e => exact hstop (planResource_of_invalid hk hd)
    | ok desired =>
      cases hr : (recordOf s.store d : Except (WorkspaceError ε) _) with
      | error e => exact hstop (planResource_of_unrecorded hk hd hr)
      | ok record =>
        obtain ⟨reads, found, w', hread, hreading⟩ := Reconciler.makes_readKnown (r := ⟨schema, w.retry⟩) (t := t)
          (record.map (·.remoteId)) s.world
        have hplan := planResource_of_read hk hd hr hread.run
        exact ⟨reads, w', hread.course, hreading.isMutating, by rw [hplan]⟩

theorem recorded_planResource {d : Declaration} (ht : t.Serves ids d.kind) (h : s.Recorded ids) :
    (w.planResource d t s).2.Recorded ids := by
  obtain ⟨reads, w', hcourse, hreads, hsite⟩ := planResource_reads w d t s
  rw [hsite]
  exact recorded_of_subset h (subset_of_reads ht hcourse hreads)

theorem recorded_applyResource {d : Declaration} (ht : t.Serves ids d.kind) (h : s.Recorded ids) :
    (w.applyResource d t s).2.Recorded ids := by
  cases hk : w.registry.get? d.kind with
  | none =>
    rw [applyResource_of_unknown hk]
    exact h
  | some schema =>
    cases hr : (recordOf s.store d : Except (WorkspaceError ε) _) with
    | error e =>
      rw [applyResource_of_unrecorded hk hr]
      exact h
    | ok record =>
      obtain ⟨history, result, w', hm, hran⟩ := Reconciler.reconcile_ran (r := ⟨schema, w.retry⟩) (t := t)
        (record.map (·.remoteId)) d.fields s.world
      obtain ⟨w'', hcourse, hrun⟩ := applyResource_of_run hk hr hm
      rw [hrun]
      intro kind id hid
      by_cases hkind : kind = d.kind
      · subst hkind
        cases result with
        | error e => exact h d.kind id (hran.leaves_of_error ht.tracks hcourse.remote hid)
        | ok outcome =>
          rcases hran.leaves_of_ok ht.tracks hcourse.remote hid with hnow | ⟨hbefore, hne⟩
          · simp only [StateStore.after, hnow]
            exact s.store.holds_noted d id
          · refine (h d.kind id hbefore).after (fun row hrow _ heq => ?_) _ _
            exact hne (heq ▸ (row_of_recordOf hr hrow).2)
      · have hbefore : id ∈ ids s.world.remote kind := (ht.spares kind hkind).replay hcourse.remote hid
        refine (h kind id hbefore).after (fun row hrow hk' => ?_) _ _
        exact absurd ((row_of_recordOf hr hrow).1.symm.trans hk').symm hkind

theorem recorded_destroyResource {address : String} {record : ResourceRecord}
    (hload : s.store.load address = .ok (some record)) (ht : t.Serves ids record.kind) (h : s.Recorded ids) :
    (w.destroyResource record t s).2.Recorded ids := by
  cases hk : w.registry.get? record.kind with
  | none =>
    rw [destroyResource_of_unknown hk]
    exact h
  | some schema =>
    obtain ⟨answers, last, w', tries, hcourse, hrun⟩ := destroyResource_of_run (t := t) (s := s) hk
    rw [hrun]
    intro kind id hid
    by_cases hkind : kind = record.kind
    · subst hkind
      have hleft : id ∈ leaves ((Call.delete record.remoteId).answered answers) (ids s.world.remote record.kind) :=
        ht.tracks.replay hcourse.remote hid
      rw [← leaves_effects] at hleft
      cases last with
      | error e =>
        rw [tries.effects_of_error] at hleft
        exact h record.kind id hleft
      | ok _ =>
        rw [tries.effects_of_ok rfl] at hleft
        obtain ⟨hbefore, hne⟩ := hleft
        refine (h record.kind id hbefore).without (fun row hrow _ heq => ?_) _
        exact hne (heq.symm.trans (row_of_load hload hrow).2)
    · have hbefore : id ∈ ids s.world.remote kind := (ht.spares kind hkind).replay hcourse.remote hid
      refine (h kind id hbefore).without (fun row hrow hk' => ?_) _
      exact absurd ((row_of_load hload hrow).1.symm.trans hk').symm hkind

/-- What can happen to a site: a resource is planned, applied or destroyed with the transport of its kind,
or somebody else changes the remote, where resources may disappear and none appears. -/
inductive Step (w : Workspace) (transports : Transports σ ε) (ids : σ → String → Set String) :
    Site σ → Site σ → Prop
  | plan (s : Site σ) (d : Declaration) {t : Transport σ ε} (ht : transports d.kind = some t) :
    Step w transports ids s (w.planResource d t s).2
  | apply (s : Site σ) (d : Declaration) {t : Transport σ ε} (ht : transports d.kind = some t) :
    Step w transports ids s (w.applyResource d t s).2
  | destroy {s : Site σ} {address : String} {record : ResourceRecord} {t : Transport σ ε}
      (hload : s.store.load address = .ok (some record)) (ht : transports record.kind = some t) :
    Step w transports ids s (w.destroyResource record t s).2
  | outside (s : Site σ) {remote : σ} (h : ∀ kind, ids remote kind ⊆ ids s.world.remote kind) :
    Step w transports ids s ⟨{ s.world with remote }, s.store⟩

section
variable {transports : Transports σ ε} (hserves : ∀ kind t, transports kind = some t → t.Serves ids kind)
include hserves

theorem Step.recorded {s s' : Site σ} (hstep : Step w transports ids s s') (h : s.Recorded ids) :
    s'.Recorded ids := by
  cases hstep with
  | plan d ht => exact recorded_planResource (hserves _ _ ht) h
  | apply d ht => exact recorded_applyResource (hserves _ _ ht) h
  | destroy hload ht => exact recorded_destroyResource hload (hserves _ _ ht) h
  | outside hsub => exact recorded_of_subset h hsub

theorem recorded_of_steps {start s : Site σ} (hreach : Relation.ReflTransGen (Step w transports ids) start s)
    (h : start.Recorded ids) : s.Recorded ids := by
  induction hreach with
  | refl => exact h
  | tail _ hstep ih => exact hstep.recorded hserves ih

/-- **No resource is orphaned.** From a remote without resources, whatever is planned, applied and destroyed,
whichever calls fail and whatever disappears, a resource that exists under an id of some kind is on record
with this kind and id. -/
theorem recorded_of_reachable {start s : Site σ} (hstart : ∀ kind, ids start.world.remote kind = ∅)
    (hreach : Relation.ReflTransGen (Step w transports ids) start s) {kind id : String}
    (hid : id ∈ ids s.world.remote kind) :
    ∃ address row, s.store.rows.get? address = some row ∧ row.kind = kind ∧ row.remoteId = id := by
  refine recorded_of_steps hserves hreach ?_ kind id hid
  intro kind id hid
  rw [hstart kind] at hid
  cases hid

end

/-! ### Remotes in memory -/

/-- The transports where each kind has a remote in memory of its own. -/
def inMemory : Transports (String → MemoryRemote) MemoryError :=
  fun kind => some (MemoryRemote.transport.within kind)

/-- A mount in memory is created, the same mount is taken up under a second address, and then its first
declaration moves it. -/
def movedMount : Site (String → MemoryRemote) :=
  let w : Workspace := ⟨Vault.registry, .once⟩
  let t := MemoryRemote.transport.within "vault_mount"
  let mount (address path : String) : Declaration :=
    ⟨address, "vault_mount", .ofList [("path", .string path), ("type", .string "kv")]⟩
  let created := (w.applyResource (mount "first" "team") t ⟨⟨fun _ => .empty "path", []⟩, .empty⟩).2
  let shared := (w.applyResource (mount "second" "team") t created).2
  (w.applyResource (mount "first" "crew") t shared).2

/-- The moved mount exists and is on record. -/
theorem recorded_movedMount : "crew" ∈ (movedMount.world.remote "vault_mount").ids ∧
    ∃ address row, movedMount.store.rows.get? address = some row ∧ row.kind = "vault_mount" ∧
      row.remoteId = "crew" := by
  let ids (remotes : String → MemoryRemote) (kind : String) : Set String := (remotes kind).ids
  have hserves : ∀ kind t, inMemory kind = some t → t.Serves ids kind := by
    rintro kind _ ⟨⟩
    exact MemoryRemote.transport_tracks.serves_within kind
  have hstart : ∀ kind, ids (fun _ => .empty "path") kind = ∅ := fun _ => MemoryRemote.ids_empty "path"
  have hreach : Relation.ReflTransGen (Step ⟨Vault.registry, .once⟩ inMemory ids)
      ⟨⟨fun _ => .empty "path", []⟩, .empty⟩ movedMount :=
    ((Relation.ReflTransGen.single (.apply _ _ rfl)).tail (.apply _ _ rfl)).tail (.apply _ _ rfl)
  have hid : "crew" ∈ (movedMount.world.remote "vault_mount").ids := by
    rw [MemoryRemote.mem_ids]
    decide +kernel
  exact ⟨hid, recorded_of_reachable hserves hstart hreach hid⟩

end Workspace

end Converge
