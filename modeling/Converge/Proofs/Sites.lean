import Converge.Workspace.Basic
import Converge.Proofs.Reconciliation

/-!
# The resources of a workspace, one at a time

How a workspace plans, applies and destroys one resource, in terms of what the reconciler of its kind does
in the same world. Each of the three looks up the kind and the record first, and stops there with an error
that touches nothing; after that it is a run of the reconciler, and the store follows its result
(`StateStore.after`, `StateStore.without`). Main theorems: `Workspace.applyResource_of_run`,
`Workspace.planResource_of_read` and `Workspace.destroyResource_of_run`.
-/

namespace Converge

variable {σ ε α β : Type}

/-! ## Records -/

namespace StateStore

/-- The store with a declared resource on record under an id, if it has one. -/
def noted (store : StateStore) (d : Declaration) : Option String → StateStore
  | none => store
  | some id => store.save ⟨d.address, d.kind, id, d.fields⟩

/-- The store after a declared resource was reconciled, which was known under an id before: its record is
kept in step with a success, and an error leaves it as it is. -/
def after (store : StateStore) (d : Declaration) (known : Option String) :
    Except (ReconcileError ε) Outcome → StateStore
  | .error _ => store
  | .ok outcome => store.noted d (outcome.newId.or known)

/-- The store after the resource of an address was destroyed: its record goes with a success. -/
def without (store : StateStore) (address : String) : Except ε Unit → StateStore
  | .error _ => store
  | .ok _ => store.remove address

/-- What is loaded is what the row of the address holds, if there is one. -/
theorem eq_row_of_load {store : StateStore} {address : String} {found : Option ResourceRecord}
    (h : store.load address = .ok found) :
    found.map (fun r => (r.address, r.kind, r.remoteId)) =
      (store.rows.get? address).map fun row => (address, row.kind, row.remoteId) := by
  unfold load at h
  cases hrow : store.rows.get? address with
  | none =>
    rw [hrow] at h
    cases h
    rfl
  | some row =>
    rw [hrow] at h
    simp only [decode] at h
    cases hfields : FieldMap.parse row.fieldsText with
    | error p =>
      rw [hfields] at h
      cases h
    | ok fields =>
      rw [hfields] at h
      cases h
      rfl

end StateStore

namespace Workspace

/-- The record of a declared resource, whose kind must not have changed. -/
def recordOf (store : StateStore) (d : Declaration) : Except (WorkspaceError ε) (Option ResourceRecord) :=
  match store.load d.address with
  | .error e => .error (.state e)
  | .ok none => .ok none
  | .ok (some record) =>
    if record.kind = d.kind then .ok (some record) else .error (.kindChanged d.address record.kind d.kind)

theorem recordOf_eq_ok {store : StateStore} {d : Declaration} {record : Option ResourceRecord} :
    (recordOf store d : Except (WorkspaceError ε) _) = .ok record ↔
      store.load d.address = .ok record ∧ ∀ r, record = some r → r.kind = d.kind := by
  unfold recordOf
  cases hl : store.load d.address with
  | error e => simp
  | ok found =>
    cases found with
    | none =>
      simp only [Except.ok.injEq]
      constructor
      · rintro rfl
        exact ⟨rfl, nofun⟩
      · exact fun h => h.1
    | some r =>
      by_cases hk : r.kind = d.kind
      · simp only [hk, if_true, Except.ok.injEq]
        constructor
        · rintro rfl
          refine ⟨rfl, ?_⟩
          rintro _ ⟨⟩
          exact hk
        · exact fun h => h.1
      · simp only [hk, if_false, Except.ok.injEq, reduceCtorEq, false_iff, not_and, not_forall]
        rintro rfl
        exact ⟨r, rfl, hk⟩

/-- The row of a declared resource is what its record says. -/
theorem row_of_recordOf {store : StateStore} {d : Declaration} {record : Option ResourceRecord}
    (hr : (recordOf store d : Except (WorkspaceError ε) _) = .ok record) {row : StoredRow}
    (hrow : store.rows.get? d.address = some row) :
    row.kind = d.kind ∧ record.map (·.remoteId) = some row.remoteId := by
  obtain ⟨hload, hkind⟩ := recordOf_eq_ok.1 hr
  have heq := StateStore.eq_row_of_load hload
  rw [hrow] at heq
  cases record with
  | none => cases heq
  | some r =>
    simp only [Option.map_some, Option.some.injEq, Prod.mk.injEq] at heq ⊢
    obtain ⟨-, hk, hid⟩ := heq
    exact ⟨hk ▸ hkind r rfl, hid⟩

/-- The record of a declared resource is in the store. -/
theorem exists_row_of_recordOf {store : StateStore} {d : Declaration} {record : Option ResourceRecord}
    (hr : (recordOf store d : Except (WorkspaceError ε) _) = .ok record) {id : String}
    (hid : record.map (·.remoteId) = some id) :
    ∃ row, store.rows.get? d.address = some row ∧ row.remoteId = id := by
  cases hrow : store.rows.get? d.address with
  | none =>
    have heq := StateStore.eq_row_of_load (recordOf_eq_ok.1 hr).1
    obtain ⟨r, rfl, _⟩ := Option.map_eq_some_iff.1 hid
    rw [hrow] at heq
    cases heq
  | some row => exact ⟨row, rfl, Option.some.inj ((row_of_recordOf hr hrow).2.symm.trans hid)⟩

theorem recorded_eq (d : Declaration) (s : Site σ) : recorded (ε := ε) d s = (recordOf s.store d, s) := by
  have hload : SiteRun.load (ε := ε) d.address s = ((s.store.load d.address).mapError .state, s) := rfl
  unfold recorded recordOf
  cases hl : s.store.load d.address with
  | error e =>
    rw [hl] at hload
    exact bind_of_error hload
  | ok found =>
    rw [hl] at hload
    rw [bind_of_ok hload]
    cases found with
    | none => rfl
    | some record =>
      by_cases hk : record.kind = d.kind
      · simp only [hk, ne_eq, not_true_eq_false, if_false, if_true]
        rfl
      · simp only [hk, ne_eq, not_false_eq_true, if_true, if_false]
        rfl

/-! ## Steps of a workspace -/

section
variable {w : Workspace} {kind : String} {schema : Schema}

theorem reconciler_of_known (h : w.registry.get? kind = some schema) :
    (w.reconciler kind : Except (WorkspaceError ε) Reconciler) = .ok ⟨schema, w.retry⟩ := by
  unfold reconciler
  rw [h]

theorem reconciler_of_unknown (h : w.registry.get? kind = none) :
    (w.reconciler kind : Except (WorkspaceError ε) Reconciler) = .error (.unknownKind kind) := by
  unfold reconciler
  rw [h]

end

theorem ofExcept_eq {x result : Except (WorkspaceError ε) α} (h : x = result) (s : Site σ) :
    SiteRun.ofExcept x s = (result, s) := by
  rw [← h]
  rfl

theorem load_of_ok {address : String} {s : Site σ} {found : Option ResourceRecord}
    (h : s.store.load address = .ok found) : SiteRun.load (ε := ε) address s = (.ok found, s) := by
  unfold SiteRun.load
  rw [h]
  rfl

theorem load_of_error {address : String} {s : Site σ} {e : StateError} (h : s.store.load address = .error e) :
    SiteRun.load (ε := ε) address s = (.error (.state e), s) := by
  unfold SiteRun.load
  rw [h]
  rfl

section
variable {transports : Transports σ ε} {kind : String}

theorem transportFor_of_some {t : Transport σ ε} (h : transports kind = some t) (s : Site σ) :
    transportFor transports kind s = (.ok t, s) := by
  unfold transportFor
  rw [h]
  rfl

theorem transportFor_of_none (h : transports kind = none) (s : Site σ) :
    transportFor transports kind s = (.error (.noTransport kind), s) := by
  unfold transportFor
  rw [h]
  rfl

end

/-- A valid declaration passes the check with which a plan starts. -/
theorem ofExcept_resolveDesired {schema : Schema} {d : Declaration} {desired : FieldMap}
    (hd : schema.resolveDesired d.fields = .ok desired) (s : Site σ) :
    SiteRun.ofExcept ((schema.resolveDesired d.fields).mapError fun e =>
      WorkspaceError.reconcile (ε := ε) d.address (.field e)) s = (.ok desired, s) := by
  apply ofExcept_eq
  rw [hd]
  rfl

theorem inWorld_eq {ε' : Type} (wrap : ε' → WorkspaceError ε) {x : Run σ ε' α} {s : Site σ} {world : World σ}
    {result : Except ε' α} (h : x s.world = (result, world)) :
    SiteRun.inWorld wrap x s = (result.mapError wrap, ⟨world, s.store⟩) := by
  unfold SiteRun.inWorld
  rw [h]

/-- Saving a record logs a line. -/
theorem save_eq (r : ResourceRecord) (s : Site σ) :
    ∃ ns : List Note, SiteRun.save (ε := ε) r s =
      (.ok (), ⟨{ s.world with journal := s.world.journal ++ ns.map .note }, s.store.save r⟩) :=
  ⟨[.line .info ("Saved state for " ++ r.address ++ " (" ++ r.kind ++ " '" ++ r.remoteId ++ "')")], rfl⟩

/-- Forgetting a record logs a line. -/
theorem remove_eq (address : String) (s : Site σ) :
    ∃ ns : List Note, SiteRun.remove (ε := ε) address s = (.ok (s.store.contains address),
      ⟨{ s.world with journal := s.world.journal ++ ns.map .note }, s.store.remove address⟩) := by
  simp only [SiteRun.remove, Bind.bind, ExceptT.bind, ExceptT.mk, StateT.bind]
  cases hc : s.store.contains address with
  | true => exact ⟨[.line .info ("Removed state for " ++ address)], rfl⟩
  | false => exact ⟨[], by rw [List.map_nil, List.append_nil]; rfl⟩

/-- The warning about a partial replacement is a note. -/
theorem makes_warnIfPartial (address : String) {t : Transport σ ε} {x : Run σ (ReconcileError ε) α}
    {w w' : World σ} {history : History ε} {result : Except (ReconcileError ε) α} (h : Makes t x w history result w') :
    ∃ w'', Makes t (warnIfPartial address x) w history result w'' := by
  unfold warnIfPartial
  cases result with
  | ok v => exact ⟨w', by simp only [h.run], h.course⟩
  | error e =>
    by_cases hp : e.isPartialReplacement = true
    · have hcourse := h.course.trans (Course.notes w'
        [.line .warn (address ++ " was deleted but not recreated; the next apply will create it")])
      rw [List.append_nil] at hcourse
      exact ⟨_, by simp only [h.run, hp, if_true]; rfl, hcourse⟩
    · exact ⟨w', by simp only [h.run, hp]; rfl, h.course⟩

variable [ToString ε] {w : Workspace} {d : Declaration} {t : Transport σ ε} {s : Site σ} {schema : Schema}
  {record : Option ResourceRecord}

/-! ## Applying -/

theorem applyResource_of_unknown (hk : w.registry.get? d.kind = none) :
    w.applyResource d t s = (.error (.unknownKind d.kind), s) :=
  bind_of_error (ofExcept_eq (reconciler_of_unknown hk) s)

theorem applyResource_of_unrecorded {e : WorkspaceError ε} (hk : w.registry.get? d.kind = some schema)
    (hr : recordOf s.store d = .error e) : w.applyResource d t s = (.error e, s) := by
  unfold applyResource
  rw [bind_of_ok (ofExcept_eq (reconciler_of_known hk) s)]
  apply bind_of_error
  rw [recorded_eq, hr]

/-- **Applying a resource is reconciling it**, under the id that is recorded, if there is one; the store is
kept in step. -/
theorem applyResource_of_run (hk : w.registry.get? d.kind = some schema)
    (hr : (recordOf s.store d : Except (WorkspaceError ε) _) = .ok record) {history : History ε}
    {result : Except (ReconcileError ε) Outcome} {w' : World σ}
    (hm : Makes t (Reconciler.reconcile ⟨schema, w.retry⟩ t (record.map (·.remoteId)) d.fields) s.world history
      result w') :
    ∃ w'', Course t s.world history w'' ∧ w.applyResource d t s =
      (result.mapError (.reconcile d.address),
        ⟨w'', s.store.after d (record.map (·.remoteId)) result⟩) := by
  obtain ⟨w'', hwarn⟩ := makes_warnIfPartial d.address hm
  have hrec : recorded (ε := ε) d s = (.ok record, s) := by rw [recorded_eq, hr]
  have hin := inWorld_eq (WorkspaceError.reconcile d.address) hwarn.run
  unfold applyResource
  rw [bind_of_ok (ofExcept_eq (reconciler_of_known hk) s), bind_of_ok hrec]
  cases result with
  | error e => exact ⟨w'', hwarn.course, bind_of_error hin⟩
  | ok outcome =>
    have hin : SiteRun.inWorld (WorkspaceError.reconcile d.address) (warnIfPartial d.address
        (Reconciler.reconcile ⟨schema, w.retry⟩ t (record.map (·.remoteId)) d.fields)) s =
          (.ok outcome, ⟨w'', s.store⟩) := hin
    rw [bind_of_ok hin]
    cases hid : outcome.newId.or (record.map (·.remoteId)) with
    | none =>
      refine ⟨w'', hwarn.course, ?_⟩
      simp only [StateStore.after, StateStore.noted, hid]
      rfl
    | some id =>
      obtain ⟨ns, hsave⟩ := save_eq (ε := ε) ⟨d.address, d.kind, id, d.fields⟩ ⟨w'', s.store⟩
      have hcourse := hwarn.course.trans (Course.notes w'' ns)
      rw [List.append_nil] at hcourse
      refine ⟨_, hcourse, ?_⟩
      simp only [StateStore.after, StateStore.noted, hid]
      exact bind_of_ok hsave

/-! ## Planning -/

theorem planResource_of_unknown (hk : w.registry.get? d.kind = none) :
    w.planResource d t s = (.error (.unknownKind d.kind), s) :=
  bind_of_error (ofExcept_eq (reconciler_of_unknown hk) s)

theorem planResource_of_invalid {e : FieldError} (hk : w.registry.get? d.kind = some schema)
    (hd : schema.resolveDesired d.fields = .error e) :
    w.planResource d t s = (.error (.reconcile d.address (.field e)), s) := by
  unfold planResource
  rw [bind_of_ok (ofExcept_eq (reconciler_of_known hk) s)]
  apply bind_of_error
  apply ofExcept_eq
  rw [hd]
  rfl

section
variable {desired : FieldMap} (hk : w.registry.get? d.kind = some schema)
  (hd : schema.resolveDesired d.fields = .ok desired)
include hk hd

theorem planResource_of_unrecorded {e : WorkspaceError ε} (hr : recordOf s.store d = .error e) :
    w.planResource d t s = (.error e, s) := by
  unfold planResource
  rw [bind_of_ok (ofExcept_eq (reconciler_of_known hk) s), bind_of_ok (ofExcept_resolveDesired hd s)]
  apply bind_of_error
  rw [recorded_eq, hr]

/-- **Planning a resource is reading it**, under the id that is recorded, if there is one, and making the
plan; the store is left alone. -/
theorem planResource_of_read (hr : (recordOf s.store d : Except (WorkspaceError ε) _) = .ok record)
    {found : Except (ReconcileError ε) (Option FieldMap)} {w' : World σ}
    (hread : Reconciler.readKnown ⟨schema, w.retry⟩ t (record.map (·.remoteId)) s.world = (found, w')) :
    w.planResource d t s =
      ((found.bind fun remote => Reconciler.plan ⟨schema, w.retry⟩ d.fields remote).mapError
        (.reconcile d.address), ⟨w', s.store⟩) := by
  have hrec : recorded (ε := ε) d s = (.ok record, s) := by rw [recorded_eq, hr]
  have hin := inWorld_eq (WorkspaceError.reconcile d.address) hread
  unfold planResource
  rw [bind_of_ok (ofExcept_eq (reconciler_of_known hk) s), bind_of_ok (ofExcept_resolveDesired hd s),
    bind_of_ok hrec]
  cases found with
  | error e => exact bind_of_error hin
  | ok remote => exact bind_of_ok hin

end

/-! ## Destroying -/

theorem destroyResource_of_unknown {record : ResourceRecord} (hk : w.registry.get? record.kind = none) :
    w.destroyResource record t s = (.error (.unknownKind record.kind), s) :=
  bind_of_error (ofExcept_eq (reconciler_of_unknown hk) s)

/-- **Destroying a resource is deleting it** under its recorded id; its record goes with a success. -/
theorem destroyResource_of_run {record : ResourceRecord} (hk : w.registry.get? record.kind = some schema) :
    ∃ answers last w', Reconciler.Tried ⟨schema, w.retry⟩ t answers last ∧
      Course t s.world ((Call.delete record.remoteId).answered answers) w' ∧
      w.destroyResource record t s =
        (last.mapError fun e => .reconcile record.address (.apply .delete answers.length e),
          ⟨w', s.store.without record.address last⟩) := by
  obtain ⟨answers, last, w1, htries, hm⟩ := Reconciler.makes_destroy (r := ⟨schema, w.retry⟩) (t := t)
    record.remoteId s.world
  have hin := inWorld_eq (WorkspaceError.reconcile record.address) hm.run
  unfold destroyResource
  rw [bind_of_ok (ofExcept_eq (reconciler_of_known hk) s)]
  cases last with
  | error e => exact ⟨answers, _, w1, htries, hm.course, bind_of_error hin⟩
  | ok _ =>
    have hin : SiteRun.inWorld (WorkspaceError.reconcile record.address)
        (Reconciler.destroy ⟨schema, w.retry⟩ t record.remoteId) s = (.ok (), ⟨w1, s.store⟩) := hin
    obtain ⟨ns, hremove⟩ := remove_eq (ε := ε) record.address ⟨w1, s.store⟩
    have hcourse := hm.course.trans (Course.notes w1 ns)
    rw [List.append_nil] at hcourse
    refine ⟨answers, .ok (), _, htries, hcourse, ?_⟩
    rw [bind_of_ok hin]
    exact bind_of_ok hremove

end Workspace

end Converge
