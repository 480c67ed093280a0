import Converge.Proofs.Applying
import Converge.Proofs.Convergence
import Converge.Proofs.Memory

/-!
# Applying a manifest twice

Applying a manifest brings every declared resource in line and records it under the id where it now lives;
applying it again finds that nothing is left to do. A resource stays in line while the others are applied,
because each reads and changes only what is under the ids that it touches: the one on record and the one that
its declaration asks for. The step lemma is `Workspace.applyResource_inLine` and the run lemma
`Workspace.applyEach_inLine`; what is in line is left alone (`Workspace.applyEach_again`). Main theorem:
`Workspace.applyAll_idempotent`.
-/

namespace Converge

variable {σ ε : Type}

/-! ## What a reconciliation leaves -/

namespace MemoryRemote

variable {r : MemoryRemote}

theorem get?_write (id : String) (payload : FieldMap) (n : String) :
    (write id payload r).2.resources.get? n =
      if (r.movesTo id payload).getD id = n then
        some (((r.resources.get? id).getD SortedMap.empty).overwrite payload)
      else if id = n then none else r.resources.get? n := by
  simp [write, insert, vanish]

theorem get?_create (desired : FieldMap) (n : String) :
    (create desired r).2.resources.get? n = if r.idOf desired = n then some desired else r.resources.get? n := by
  simp [create, insert]

theorem get?_delete (id n : String) :
    (delete id r).2.resources.get? n = if id = n then none else r.resources.get? n := by
  simp [delete, vanish]

end MemoryRemote

namespace Reconciler

variable {r : Reconciler} {t : Transport σ ε} {memory : σ → MemoryRemote} {quiet : σ → Prop} {known : Option String}
  {desired d : FieldMap} {s s' : σ} {reads changes history : History ε}

/-- What is read is what is kept under the id, and reading changes nothing. -/
theorem Reading.of_keeps (hkeeps : t.Keeps memory quiet) {remote : Option FieldMap}
    (h : r.Reading t known reads (.ok remote)) (hreplay : t.replay (reads.map (·.call)) s = (reads, s')) :
    memory s' = memory s ∧ remote = known.bind (memory s).resources.get? := by
  generalize hfound : Except.ok remote = found at h
  cases h with
  | skipped =>
    cases hfound
    cases hreplay
    exact ⟨rfl, rfl⟩
  | @made id answers last tries =>
    cases last with
    | error e => cases hfound
    | ok a =>
      cases hfound
      have hperform := (hkeeps.of_tries tries hreplay).2 remote rfl
      obtain ⟨hremote, hmemory⟩ := Prod.mk.inj hperform
      exact ⟨hmemory.symm, hremote.symm⟩

/-- What a successful reconciliation leaves in a remote in memory: the resource lives under the id that is now
known, which is the old one or the one that the declaration asks for, it is in line, and nothing else has
changed. -/
structure Leaves (schema : Schema) (desired d : FieldMap) (known now : Option String)
    (before after : MemoryRemote) : Prop where
  inLine : ∃ id reported, now = some id ∧ (known = some id ∨ before.idOf d = id) ∧
    after.resources.get? id = some reported ∧ Plan.compute schema desired (some reported) = .ok (.single .noop)
  idField : after.idField = before.idField
  others : ∀ i, known ≠ some i → before.idOf d ≠ i → after.resources.get? i = before.resources.get? i

section
variable (hreg : r.schema.Regular) (hcanon : r.schema.canonicalizer = none)
include hreg hcanon

section
variable (hd : r.schema.resolveDesired desired = .ok d)
include hd

/-- A created resource is kept as it is declared, which is in line. -/
theorem leaves_of_created {before after : MemoryRemote} {newId : String}
    (hcreate : before.perform (.create d) = (newId, after)) (known : Option String) :
    Leaves r.schema desired d known (some newId) before after := by
  obtain ⟨rfl, rfl⟩ := Prod.mk.inj hcreate
  refine ⟨⟨_, d, rfl, .inr rfl, ?_, ?_⟩, rfl, fun i _ hi => ?_⟩
  · exact (MemoryRemote.get?_create d _).trans (if_pos rfl)
  · exact Plan.compute_of_recreated hreg (Schema.stable_of_canonicalizer_eq_none hcanon) hd
  · exact (MemoryRemote.get?_create d i).trans (if_neg hi)

/-- An updated resource is kept with the payload written over it, under the id that the payload moves it to. -/
theorem leaves_of_updated {before after : MemoryRemote} {id : String} {reported changed accompanying : FieldMap}
    {movedTo : Option String} (hget : before.resources.get? id = some reported)
    (hplan : Plan.compute r.schema desired (some reported) = .ok (.single (.update changed accompanying)))
    (hwrite : before.perform (.write id (updatePayload changed accompanying)) = (movedTo, after)) :
    Leaves r.schema desired d (some id) (movedTo.or (some id)) before after := by
  obtain ⟨rfl, rfl⟩ := Prod.mk.inj hwrite
  have hkept : ((before.resources.get? id).getD SortedMap.empty) = reported := by rw [hget, Option.getD_some]
  -- only the id that is declared can be sent as a new one
  have hnow : before.movesTo id (updatePayload changed accompanying) = none ∨
      before.movesTo id (updatePayload changed accompanying) = some (before.idOf d) := by
    cases hmoves : before.movesTo id (updatePayload changed accompanying) with
    | none => exact .inl rfl
    | some newId =>
      obtain ⟨hsent, _⟩ := Option.filter_eq_some_iff.1 hmoves
      obtain ⟨d', _, hd', _, _, hu, _⟩ := Plan.update_cases hplan
      rw [hd] at hd'
      cases hd'
      have hdeclared := FieldMap.string?_eq_some.2 (Plan.get?_payload hu (FieldMap.string?_eq_some.1 hsent))
      exact .inr (by rw [MemoryRemote.idOf, hdeclared, Option.getD_some])
  refine ⟨⟨(before.movesTo id (updatePayload changed accompanying)).getD id, _, ?_, ?_, ?_,
    Plan.compute_after_update hreg hcanon hplan⟩, rfl, fun i hid hi => ?_⟩
  · rcases hnow with h | h <;> rw [h] <;> rfl
  · rcases hnow with h | h
    · exact .inl (by rw [h, Option.getD_none])
    · exact .inr (by rw [h, Option.getD_some])
  · exact (MemoryRemote.get?_write id _ _).trans (by rw [if_pos rfl, hkept])
  · have hne : id ≠ i := fun he => hid (congrArg some he)
    have hgone : (before.movesTo id (updatePayload changed accompanying)).getD id ≠ i := by
      rcases hnow with h | h
      · rwa [h, Option.getD_none]
      · rwa [h, Option.getD_some]
    exact (MemoryRemote.get?_write id _ i).trans (by rw [if_neg hgone, if_neg hne])

variable (hkeeps : t.Keeps memory quiet)
include hkeeps

/-- **The changes of a successful reconciliation leave the resource in line**, and touch nothing else. -/
theorem Changing.leaves_inLine {a : Action} {outcome : Outcome}
    (hplan : Plan.compute r.schema desired (known.bind (memory s).resources.get?) = .ok (.single a))
    (h : r.Changing t known a changes (.ok outcome)) (hreplay : t.replay (changes.map (·.call)) s = (changes, s')) :
    Leaves r.schema desired d known (outcome.newId.or known) (memory s) (memory s') := by
  have hcases := Plan.compute_single_cases hplan hd
  generalize hresult : Except.ok outcome = result at h
  cases h with
  | noop =>
    cases hresult
    cases hreplay
    rcases hcases with ⟨_, ha⟩ | ⟨reported, _, hremote, _⟩
    · cases ha
    · obtain ⟨id, rfl, hget⟩ := Option.bind_eq_some_iff.1 hremote
      rw [hremote] at hplan
      exact ⟨⟨id, reported, rfl, .inl rfl, hget, hplan⟩, rfl, fun _ _ _ => rfl⟩
  | @create _ d' answers last tries =>
    cases last with
    | error e => cases hresult
    | ok newId =>
      cases hresult
      rcases hcases with ⟨_, ha⟩ | ⟨_, _, _, _, ha⟩
      · cases ha
        exact leaves_of_created hreg hcanon hd ((hkeeps.of_tries tries hreplay).2 newId rfl) known
      · rcases ha with ha | ⟨_, ha⟩ | ⟨_, _, ha⟩ <;> cases ha
  | @update id changed accompanying answers last tries =>
    cases last with
    | error e => cases hresult
    | ok movedTo =>
      cases hresult
      rcases hcases with ⟨_, ha⟩ | ⟨reported, _, hremote, _⟩
      · cases ha
      · rw [hremote] at hplan
        exact leaves_of_updated hreg hcanon hd hremote hplan ((hkeeps.of_tries tries hreplay).2 movedTo rfl)
  | keep => cases hresult
  | @replace id reason d' deletes creates last deleted tries =>
    cases last with
    | error e => cases hresult
    | ok newId =>
      cases hresult
      obtain ⟨s₁, hdeletes, hcreates⟩ := Transport.replay_append_iff.1 hreplay
      have hdelete : (MemoryRemote.delete id (memory s)).2 = memory s₁ :=
        (Prod.mk.inj ((hkeeps.of_tries deleted hdeletes).2 () rfl)).2
      have hd' : d' = d := by
        rcases hcases with ⟨_, ha⟩ | ⟨_, _, _, _, ha⟩
        · cases ha
        · rcases ha with ha | ⟨_, ha⟩ | ⟨_, _, ha⟩
          · cases ha
          · cases ha
            rfl
          · cases ha
      subst hd'
      have hleaves := leaves_of_created hreg hcanon hd ((hkeeps.of_tries tries hcreates).2 newId rfl) (some id)
      have hidOf : (memory s₁).idOf d' = (memory s).idOf d' := by rw [← hdelete]; rfl
      refine ⟨?_, ?_, fun i hid hi => ?_⟩
      · rw [← hidOf]
        exact hleaves.inLine
      · rw [hleaves.idField, ← hdelete]
        rfl
      · have hne : id ≠ i := fun he => hid (congrArg some he)
        rw [hleaves.others i hid (hidOf ▸ hi), ← hdelete]
        exact (MemoryRemote.get?_delete id i).trans (if_neg hne)
  | updateUnknown => cases hresult
  | replaceUnknown => cases hresult

end

/-- A successful reconciliation leaves the resource in line, and touches nothing else. -/
theorem Ran.leaves_inLine (hkeeps : t.Keeps memory quiet) {outcome : Outcome}
    {found : Except (ReconcileError ε) (Option FieldMap)} (h : r.Ran t known desired found history (.ok outcome))
    (hreplay : t.replay (history.map (·.call)) s = (history, s')) :
    ∃ d, r.schema.resolveDesired desired = .ok d ∧
      Leaves r.schema desired d known (outcome.newId.or known) (memory s) (memory s') := by
  cases h with
  | @applied d reads remote a changes _ hd reading plan changing =>
    obtain ⟨s₁, hreads, hchanges⟩ := Transport.replay_append_iff.1 hreplay
    obtain ⟨hsame, rfl⟩ := reading.of_keeps hkeeps hreads
    rw [← hsame] at plan ⊢
    exact ⟨d, hd, changing.leaves_inLine hreg hcanon hd hkeeps plan hchanges⟩

end

/-- From a quiet state a resource is read at the first try. -/
theorem Reading.of_quiet (hkeeps : t.Keeps memory quiet) (hquiet : quiet s) {id : String}
    {found : Except (ReconcileError ε) (Option FieldMap)} (h : r.Reading t (some id) reads found)
    (hreplay : t.replay (reads.map (·.call)) s = (reads, s')) :
    reads = [⟨.read id, .ok ((memory s).resources.get? id)⟩] ∧ found = .ok ((memory s).resources.get? id) ∧
      memory s' = memory s ∧ quiet s' := by
  cases h with
  | @made _ answers last tries =>
    obtain ⟨remote, rfl, rfl, hquiet'⟩ := hkeeps.of_quiet tries hreplay hquiet
    obtain ⟨rfl, hmemory⟩ := Prod.mk.inj ((hkeeps.of_tries tries hreplay).2 remote rfl)
    exact ⟨rfl, rfl, hmemory.symm, hquiet'⟩

/-- **A resource that is in line is read once and left alone**, where no call fails. -/
theorem Ran.of_noop (hkeeps : t.Keeps memory quiet) (hquiet : quiet s) {id : String} {reported : FieldMap}
    (hget : (memory s).resources.get? id = some reported)
    (hnoop : Plan.compute r.schema desired (some reported) = .ok (.single .noop))
    {found : Except (ReconcileError ε) (Option FieldMap)} {result : Except (ReconcileError ε) Outcome}
    (h : r.Ran t (some id) desired found history result)
    (hreplay : t.replay (history.map (·.call)) s = (history, s')) :
    history = [⟨.read id, .ok (some reported)⟩] ∧ result = .ok .unchanged ∧ memory s' = memory s ∧ quiet s' := by
  cases h with
  | invalid hinvalid =>
    obtain ⟨_, hd, _⟩ := Plan.compute_eq_ok.1 hnoop
    rw [hinvalid] at hd
    cases hd
  | unread _ reading =>
    obtain ⟨_, hfound, _⟩ := reading.of_quiet hkeeps hquiet hreplay
    cases hfound
  | unplanned _ reading plan =>
    obtain ⟨_, hfound, _⟩ := reading.of_quiet hkeeps hquiet hreplay
    rw [Except.ok.inj hfound, hget, hnoop] at plan
    cases plan
  | @applied _ reads remote a changes _ _ reading plan changing =>
    obtain ⟨s₁, hreads, hchanges⟩ := Transport.replay_append_iff.1 hreplay
    obtain ⟨rfl, hfound, hmemory, hquiet'⟩ := reading.of_quiet hkeeps hquiet hreads
    rw [Except.ok.inj hfound, hget, hnoop] at plan
    cases plan
    cases changing
    cases hchanges
    rw [hget]
    exact ⟨rfl, rfl, hmemory, hquiet'⟩

end Reconciler

/-! ## What a workspace has before it -/

/-- The store of a workspace and what its remote keeps. -/
structure Snapshot where
  store : StateStore
  remote : MemoryRemote

def Site.snapshot (memory : σ → MemoryRemote) (s : Site σ) : Snapshot := ⟨s.store, memory s.world.remote⟩

namespace Workspace

/-- The ids that applying a declared resource is about: the one on record, and the one that the declaration asks
for, which is the value of the attribute that ids are taken from. -/
def touched (w : Workspace) (before : Snapshot) (d : Declaration) : List String :=
  let recorded := (before.store.rows.get? d.address).map (·.remoteId)
  let desired := (w.registry.get? d.kind).bind fun schema => (schema.resolveDesired d.fields).toOption
  recorded.toList ++ (desired.map before.remote.idOf).toList

/-- A declared resource is on record under an id, and the resource under this id is in line with it. -/
def InLine (w : Workspace) (now : Snapshot) (d : Declaration) (id : String) : Prop :=
  ∃ schema reported, w.registry.get? d.kind = some schema ∧
    now.store.rows.get? d.address = some ⟨d.kind, id, d.fields.toText⟩ ∧
    now.remote.resources.get? id = some reported ∧
    Plan.compute schema d.fields (some reported) = .ok (.single .noop)

end Workspace

/-- Nothing has changed but the records of some addresses and the resources under some ids. -/
structure Snapshot.Within (addresses : List String) (ids : String → Prop) (before after : Snapshot) : Prop where
  rows : ∀ a, a ∉ addresses → after.store.rows.get? a = before.store.rows.get? a
  idField : after.remote.idField = before.remote.idField
  resources : ∀ i, ¬ ids i → after.remote.resources.get? i = before.remote.resources.get? i

theorem Snapshot.Within.trans {addresses addresses' : List String} {ids ids' : String → Prop}
    {before between after : Snapshot} (h : Within addresses ids before between)
    (h' : Within addresses' ids' between after) :
    Within (addresses ++ addresses') (fun i => ids i ∨ ids' i) before after := by
  refine ⟨fun a ha => ?_, h'.idField.trans h.idField, fun i hi => ?_⟩
  · rw [List.mem_append, not_or] at ha
    exact (h'.rows a ha.2).trans (h.rows a ha.1)
  · rw [not_or] at hi
    exact (h'.resources i hi.2).trans (h.resources i hi.1)

namespace Workspace

variable {w : Workspace} {d : Declaration} {before after : Snapshot} {addresses : List String} {ids : String → Prop}

theorem mem_touched_of_row {row : StoredRow} (h : before.store.rows.get? d.address = some row) :
    row.remoteId ∈ w.touched before d := by
  simp [touched, h]

theorem mem_touched_of_desired {schema : Schema} {desired : FieldMap} (hk : w.registry.get? d.kind = some schema)
    (hd : schema.resolveDesired d.fields = .ok desired) : before.remote.idOf desired ∈ w.touched before d := by
  simp [touched, hk, hd, Except.toOption]

theorem touched_of_within (h : Snapshot.Within addresses ids before after) (hd : d.address ∉ addresses) :
    w.touched after d = w.touched before d := by
  have hidOf : after.remote.idOf = before.remote.idOf := by
    unfold MemoryRemote.idOf
    rw [h.idField]
  unfold touched
  rw [h.rows _ hd, hidOf]

/-- What is in line stays so where neither its record nor its resource changes. -/
theorem InLine.of_within {id : String} (hin : w.InLine before d id) (h : Snapshot.Within addresses ids before after)
    (hd : d.address ∉ addresses) (hid : ¬ ids id) : w.InLine after d id := by
  obtain ⟨schema, reported, hk, hrow, hget, hnoop⟩ := hin
  exact ⟨schema, reported, hk, (h.rows _ hd).trans hrow, (h.resources _ hid).trans hget, hnoop⟩

/-! ## Applying one resource -/

section
variable [ToString ε] {memory : σ → MemoryRemote} {quiet : σ → Prop} {t : Transport σ ε} {s s' : Site σ}

/-- **An applied resource is in line**, and nothing that it does not touch has changed. -/
theorem applyResource_inLine
    (hschemas : ∀ kind schema, w.registry.get? kind = some schema → schema.Regular ∧ schema.canonicalizer = none)
    (hkeeps : t.Keeps memory quiet) {outcome : Outcome} (h : w.applyResource d t s = (.ok outcome, s')) :
    (∃ id ∈ w.touched (s.snapshot memory) d, w.InLine (s'.snapshot memory) d id) ∧
      Snapshot.Within [d.address] (· ∈ w.touched (s.snapshot memory) d)
        (s.snapshot memory) (s'.snapshot memory) := by
  cases hk : w.registry.get? d.kind with
  | none =>
    rw [applyResource_of_unknown hk] at h
    cases h
  | some schema =>
    cases hr : (recordOf s.store d : Except (WorkspaceError ε) _) with
    | error e =>
      rw [applyResource_of_unrecorded hk hr] at h
      cases h
    | ok record =>
      obtain ⟨history, result, w', hm, hran⟩ := Reconciler.reconcile_ran (r := ⟨schema, w.retry⟩) (t := t)
        (record.map (·.remoteId)) d.fields s.world
      obtain ⟨w'', hcourse, hrun⟩ := applyResource_of_run hk hr hm
      rw [h] at hrun
      obtain ⟨hresult, rfl⟩ := Prod.mk.inj hrun
      cases result with
      | error e => cases hresult
      | ok outcome' =>
        cases hresult
        obtain ⟨hreg, hcanon⟩ := hschemas _ _ hk
        obtain ⟨desired, hd, hleaves⟩ := hran.leaves_inLine hreg hcanon hkeeps hcourse.remote
        obtain ⟨id, reported, hnow, hid, hget, hnoop⟩ := hleaves.inLine
        have hstore : s.store.after d (record.map (·.remoteId)) (.ok outcome : Except (ReconcileError ε) Outcome) =
            s.store.save ⟨d.address, d.kind, id, d.fields⟩ := by
          simp only [StateStore.after, StateStore.noted, hnow]
        have hrecorded : ∀ i, record.map (·.remoteId) = some i → i ∈ w.touched (s.snapshot memory) d := by
          intro i hi
          obtain ⟨row, hrow, rfl⟩ := exists_row_of_recordOf hr hi
          exact mem_touched_of_row hrow
        have htarget : ∀ i, (s.snapshot memory).remote.idOf desired = i → i ∈ w.touched (s.snapshot memory) d := by
          rintro _ rfl
          exact mem_touched_of_desired hk hd
        rw [hstore]
        refine ⟨⟨id, hid.elim (hrecorded id) (htarget id), schema, reported, hk, ?_, hget, hnoop⟩,
          ?_, hleaves.idField, ?_⟩
        · simp [Site.snapshot, StateStore.save]
        · intro a ha
          have hne : d.address ≠ a := fun he => ha (by simp [he])
          simp [Site.snapshot, StateStore.save, hne]
        · exact fun i hi => hleaves.others i (fun hk => hi (hrecorded i hk)) fun ht => hi (htarget i ht)

/-- **What is in line is read once and left alone**, where no call fails. -/
theorem applyResource_again (hkeeps : t.Keeps memory quiet) {id : String} (hin : w.InLine (s.snapshot memory) d id)
    (hquiet : quiet s.world.remote) :
    ∃ s' events, w.applyResource d t s = (.ok .unchanged, s') ∧ s'.world.journal = s.world.journal ++ events ∧
      Journal.outcomes events = [(.read id, true)] ∧ s'.snapshot memory = s.snapshot memory ∧
      quiet s'.world.remote := by
  obtain ⟨schema, reported, hk, hrow, hget, hnoop⟩ := hin
  have hr : (recordOf s.store d : Except (WorkspaceError ε) _) = .ok (some ⟨d.address, d.kind, id, d.fields⟩) := by
    refine recordOf_eq_ok.2 ⟨StateStore.load_of_row hrow, ?_⟩
    rintro _ ⟨⟩
    rfl
  obtain ⟨history, result, w', hm, hran⟩ := Reconciler.reconcile_ran (r := ⟨schema, w.retry⟩) (t := t)
    (some id) d.fields s.world
  obtain ⟨w'', hcourse, hrun⟩ := applyResource_of_run hk hr hm
  obtain ⟨rfl, rfl, hmemory, hquiet'⟩ := hran.of_noop hkeeps hquiet hget hnoop hcourse.remote
  obtain ⟨events, hjournal, hcalls⟩ := hcourse.journal
  -- what is saved is on record already
  have hstore : s.store.save ⟨d.address, d.kind, id, d.fields⟩ = s.store := by
    have hrows : s.store.rows.insert d.address ⟨d.kind, id, d.fields.toText⟩ = s.store.rows := by
      refine SortedMap.ext_get? fun a => ?_
      rw [SortedMap.get?_insert]
      split
      next h => rw [← h]; exact hrow.symm
      next => rfl
    exact congrArg StateStore.mk hrows
  refine ⟨_, events, hrun, hjournal, hcalls, ?_, hquiet'⟩
  simp only [Site.snapshot, hmemory, Snapshot.mk.injEq, and_true]
  exact hstore

end

/-! ## Applying one resource after the other -/

section
variable [ToString ε] {memory : σ → MemoryRemote} {quiet : σ → Prop} {transports : Transports σ ε} {s s' : Site σ}
  {ds : List Declaration} {outcomes : List (String × Outcome)}

variable (hkeeps : ∀ kind t, transports kind = some t → t.Keeps memory quiet)
include hkeeps

/-- **Applied resources are in line**, each under an id that it touches, and nothing that none of them touches
has changed. -/
theorem applyEach_inLine
    (hschemas : ∀ kind schema, w.registry.get? kind = some schema → schema.Regular ∧ schema.canonicalizer = none)
    (hapart : ds.Pairwise fun d d' => d.address ≠ d'.address ∧
      ∀ i ∈ w.touched (s.snapshot memory) d, i ∉ w.touched (s.snapshot memory) d')
    (h : w.applyEach transports ds s = (.ok outcomes, s')) :
    (∀ d ∈ ds, (∃ t, transports d.kind = some t) ∧
      ∃ id ∈ w.touched (s.snapshot memory) d, w.InLine (s'.snapshot memory) d id) ∧
      Snapshot.Within (ds.map (·.address)) (fun i => ∃ d ∈ ds, i ∈ w.touched (s.snapshot memory) d)
        (s.snapshot memory) (s'.snapshot memory) := by
  induction ds generalizing s outcomes with
  | nil =>
    cases h
    exact ⟨nofun, fun _ _ => rfl, rfl, fun _ _ => rfl⟩
  | cons d ds ih =>
    obtain ⟨t, outcome, s₁, rest, ht, hd, hds, rfl⟩ := applyEach_cons_eq_ok.1 h
    obtain ⟨hfirst, hlater⟩ := List.pairwise_cons.1 hapart
    obtain ⟨⟨id, htouched, hin⟩, hwithin⟩ := applyResource_inLine hschemas (hkeeps _ _ ht) hd
    -- the others touch what they touched before
    have hsame : ∀ d' ∈ ds, w.touched (s₁.snapshot memory) d' = w.touched (s.snapshot memory) d' :=
      fun d' hd' => touched_of_within hwithin (List.mem_singleton.not.2 fun he => (hfirst d' hd').1 he.symm)
    have hapart' : ds.Pairwise fun d d' => d.address ≠ d'.address ∧
        ∀ i ∈ w.touched (s₁.snapshot memory) d, i ∉ w.touched (s₁.snapshot memory) d' :=
      hlater.imp_of_mem fun ha hb hab => by rwa [hsame _ ha, hsame _ hb]
    obtain ⟨hrest, hwithin'⟩ := ih (s := s₁.logged .info (d.address ++ ": " ++ outcome.text)) hapart' hds
    refine ⟨List.forall_mem_cons.2 ⟨⟨⟨t, ht⟩, id, htouched, ?_⟩, fun d' hd' => ?_⟩, ?_⟩
    · refine hin.of_within hwithin' (fun hmem => ?_) fun ⟨d', hd', hi⟩ => ?_
      · obtain ⟨d', hd', he⟩ := List.mem_map.1 hmem
        exact (hfirst d' hd').1 he.symm
      · exact (hfirst d' hd').2 id htouched (hsame d' hd' ▸ hi)
    · obtain ⟨htransport, id', htouched', hin'⟩ := hrest d' hd'
      exact ⟨htransport, id', hsame d' hd' ▸ htouched', hin'⟩
    · have hboth := hwithin.trans hwithin'
      refine ⟨hboth.rows, hboth.idField, fun i hi => hboth.resources i ?_⟩
      rintro (hi' | ⟨d', hd', hi'⟩)
      · exact hi ⟨d, List.mem_cons_self, hi'⟩
      · exact hi ⟨d', List.mem_cons_of_mem d hd', hsame d' hd' ▸ hi'⟩

/-- **What is in line is left alone**: each resource is read once, under the id on record. -/
theorem applyEach_again
    (hin : ∀ d ∈ ds, (∃ t, transports d.kind = some t) ∧ ∃ id, w.InLine (s.snapshot memory) d id)
    (hquiet : quiet s.world.remote) :
    ∃ s' events, w.applyEach transports ds s = (.ok (ds.map fun d => (d.address, .unchanged)), s') ∧
      s'.world.journal = s.world.journal ++ events ∧
      List.Forall₂ (fun d x => ∃ row, s.store.rows.get? d.address = some row ∧ x = (.read row.remoteId, true))
        ds (Journal.outcomes events) ∧
      s'.snapshot memory = s.snapshot memory := by
  induction ds generalizing s with
  | nil => exact ⟨s, [], rfl, (List.append_nil _).symm, .nil, rfl⟩
  | cons d ds ih =>
    obtain ⟨⟨⟨t, ht⟩, id, hd⟩, hds⟩ := List.forall_mem_cons.1 hin
    obtain ⟨s₁, events, happlied, hjournal, hcalls, hsnapshot, hquiet'⟩ :=
      applyResource_again (hkeeps _ _ ht) hd hquiet
    have hsame : (s₁.logged .info (d.address ++ ": " ++ Outcome.unchanged.text)).snapshot memory =
      s.snapshot memory := hsnapshot
    rw [← hsame] at hds
    obtain ⟨s₂, events', hrest, hjournal', hcalls', hsnapshot'⟩ := ih hds hquiet'
    have hstore : s₁.store = s.store := congrArg Snapshot.store hsnapshot
    obtain ⟨_, _, _, hrow, _⟩ := hd
    refine ⟨s₂, events ++ .note (.line .info (d.address ++ ": " ++ Outcome.unchanged.text)) :: events',
      applyEach_cons_eq_ok.2 ⟨t, _, s₁, _, ht, happlied, hrest, rfl⟩, ?_, ?_, hsnapshot'.trans hsame⟩
    · rw [hjournal']
      simp only [Site.logged, hjournal, List.append_assoc, List.singleton_append]
    · rw [Journal.outcomes_append, hcalls]
      refine .cons ⟨_, hrow, rfl⟩ ?_
      rw [← hstore]
      exact hcalls'

end

end Workspace

/-! ## Applying a manifest -/

namespace Workspace

variable [ToString ε] {w : Workspace} {m : Manifest} {transports : Transports σ ε} {s s' : Site σ}

/-- **Applying a manifest is idempotent.** After a manifest was applied, through whatever failures, applying it
again where no call fails finds every resource unchanged: each is read once, under the id on record, no other
call is made, and the store and the remote stay as they are. The resources have to be apart: none touches an id
that another one touches. -/
theorem applyAll_idempotent {memory : σ → MemoryRemote} {quiet : σ → Prop}
    (hschemas : ∀ kind schema, w.registry.get? kind = some schema → schema.Regular ∧ schema.canonicalizer = none)
    (hkeeps : ∀ kind t, transports kind = some t → t.Keeps memory quiet)
    (hapart : ∀ d ∈ m.resources, ∀ d' ∈ m.resources, d.address ≠ d'.address →
      ∀ i ∈ w.touched (s.snapshot memory) d, i ∉ w.touched (s.snapshot memory) d')
    {outcomes : List (String × Outcome)} (hfirst : w.applyAll m transports s = (.ok outcomes, s'))
    {again : Site σ} (hsame : again.snapshot memory = s'.snapshot memory) (hquiet : quiet again.world.remote) :
    ∃ again' events, w.applyAll m transports again =
        (.ok (m.resources.map fun d => (d.address, .unchanged)), again') ∧
      again'.world.journal = again.world.journal ++ events ∧
      List.Forall₂ (fun d x => ∃ row, again.store.rows.get? d.address = some row ∧ x = (.read row.remoteId, true))
        m.resources (Journal.outcomes events) ∧
      again'.snapshot memory = again.snapshot memory := by
  obtain ⟨hvalid, hfirst⟩ := applyAll_eq_ok.1 hfirst
  have hnodup := Manifest.nodup_of_validate hvalid
  have hpairs : m.resources.Pairwise fun d d' => d.address ≠ d'.address ∧
      ∀ i ∈ w.touched (s.snapshot memory) d, i ∉ w.touched (s.snapshot memory) d' :=
    (List.pairwise_map.1 hnodup).imp_of_mem fun hd hd' hne => ⟨hne, hapart _ hd _ hd' hne⟩
  obtain ⟨hin, _⟩ := applyEach_inLine hkeeps hschemas hpairs hfirst
  obtain ⟨again', events, hagain, hjournal, hcalls, hsnapshot⟩ := applyEach_again hkeeps (s := again)
    (fun d hd => ⟨(hin d hd).1, (hin d hd).2.imp fun id hid => hsame ▸ hid.2⟩) hquiet
  exact ⟨again', events, applyAll_eq_ok.2 ⟨hvalid, hagain⟩, hjournal, hcalls, hsnapshot⟩

/-- Two transit keys; the first one may be deleted. -/
def twoKeys : Manifest where
  resources :=
    let key (name : String) : FieldMap := .ofList [("backend", .string "transit"), ("name", .string name)]
    [⟨"first", "vault_transit_key", (key "orders").insert "deletion_allowed" (.bool true)⟩,
      ⟨"second", "vault_transit_key", key "payments"⟩]

/-- The first key is on record and exists, and the next write fails. -/
def oneKey : Site MemoryRemote :=
  let key : FieldMap := .ofList [("backend", .string "transit"), ("name", .string "orders")]
  let remote := ((MemoryRemote.empty "name").insert "orders" key).fail .write [⟨"busy", true⟩]
  ⟨⟨remote, []⟩, StateStore.empty.save ⟨"first", "vault_transit_key", "orders", key⟩⟩

/-- The two keys, of which the first one is updated at the second try and the second one is created, are left
alone the next time. -/
theorem applyAll_idempotent_twoKeys :
    let w : Workspace := ⟨.ofSchemas [Vault.TransitKey.schema], .ofAttempts 2 .zero⟩
    ∃ applied, w.applyAll twoKeys (fun _ => some MemoryRemote.transport) oneKey =
        (.ok [("first", .updated ["deletion_allowed"] none), ("second", .created "payments")], applied) ∧
      ∃ again' events, w.applyAll twoKeys (fun _ => some MemoryRemote.transport) applied =
        (.ok [("first", .unchanged), ("second", .unchanged)], again') ∧
      again'.world.journal = applied.world.journal ++ events ∧
      List.Forall₂ (fun d x => ∃ row, applied.store.rows.get? d.address = some row ∧ x = (.read row.remoteId, true))
        twoKeys.resources (Journal.outcomes events) ∧
      again'.snapshot MemoryRemote.calm = applied.snapshot MemoryRemote.calm := by
  intro w
  have hschemas : ∀ kind schema, w.registry.get? kind = some schema →
      schema.Regular ∧ schema.canonicalizer = none := by
    intro kind schema h
    have hget : w.registry.get? kind = if "vault_transit_key" = kind then some Vault.TransitKey.schema else none :=
      SortedMap.get?_insert _ _ _ _
    rw [hget] at h
    split_ifs at h
    cases h
    exact ⟨Vault.TransitKey.schema_regular, rfl⟩
  have hkeeps : ∀ kind t,
      (fun _ => some MemoryRemote.transport : Transports MemoryRemote MemoryError) kind = some t →
        t.Keeps MemoryRemote.calm fun r => r.failures = fun _ => [] := by
    rintro _ _ ⟨⟩
    exact MemoryRemote.transport_keeps
  have hapart : ∀ d ∈ twoKeys.resources, ∀ d' ∈ twoKeys.resources, d.address ≠ d'.address →
      ∀ i ∈ w.touched (oneKey.snapshot MemoryRemote.calm) d,
        i ∉ w.touched (oneKey.snapshot MemoryRemote.calm) d' := by
    decide +kernel
  have hok : (w.applyAll twoKeys (fun _ => some MemoryRemote.transport) oneKey).1.toOption =
      some [("first", .updated ["deletion_allowed"] none), ("second", .created "payments")] := by
    decide +kernel
  have hquiet : (w.applyAll twoKeys (fun _ => some MemoryRemote.transport) oneKey).2.world.remote.failures =
      fun _ => [] := by
    funext kind
    cases kind <;> decide +kernel
  generalize hrun : w.applyAll twoKeys (fun _ => some MemoryRemote.transport) oneKey = run at hok hquiet ⊢
  obtain ⟨_ | outcomes, applied⟩ := run
  · cases hok
  · cases hok
    exact ⟨applied, rfl, applyAll_idempotent hschemas hkeeps hapart hrun rfl hquiet⟩

end Workspace

end Converge
