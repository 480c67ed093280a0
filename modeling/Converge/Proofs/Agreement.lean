import Converge.Proofs.Accounts
import Converge.Proofs.Sites

/-!
# Plans and what is done about them

A plan is made to be looked at before anything is changed, so it has to say what applying the resource from
the same state will do. The two run through different code: planning checks the declaration before the
record, applying after it, and each makes the plan for itself. Here they are compared. `Plan.Yields` says
which outcome a plan leads to, and `Workspace.CarriesOut` what it is to apply a resource as planned. Main
theorem: `Workspace.planResource_agrees`.
-/

namespace Converge

variable {σ ε β : Type}

/-- The outcomes of a plan that is carried out for the resource of an id. -/
inductive Plan.Yields (id : Option String) : Plan → Outcome → Prop
  | noop : Yields id (single .noop) .unchanged
  | create {desired newId} : Yields id (single (.create desired)) (.created newId)
  | update {p : Plan} {changed accompanying movedTo} (h : p = single (.update changed accompanying)) :
    Yields id p (.updated p.changedFields movedTo)
  | replace {reason desired previous newId} (h : id = some previous) :
    Yields id (single (.replace reason desired)) (.replaced previous newId)

/-! ## Reads -/

/-- What no read changes is as it was after any number of them. -/
theorem Transport.replay_of_reads {t : Transport σ ε} {view : σ → β}
    (hview : ∀ id s, view (t.exchange (.read id) s).2 = view s) {history : History ε} {s s' : σ}
    (hreads : ∀ x ∈ history, x.call.kind = .read)
    (h : t.replay (history.map (·.call)) s = (history, s')) : view s' = view s := by
  induction history generalizing s with
  | nil =>
    cases h
    rfl
  | cons x xs ih =>
    obtain ⟨hx, hxs⟩ := List.forall_mem_cons.1 hreads
    rw [ih hxs (replay_cons_iff.1 h).2]
    obtain ⟨c, answer⟩ := x
    cases c with
    | read id => exact hview id s
    | write | delete | create => cases hx

/-! ## The end of a run -/

theorem Tries.getLast?_answered {retryable : ε → Bool} {bound : Nat} {c : Call}
    {answers : List (Except ε c.Result)} {last : Except ε c.Result} (h : Tries retryable bound answers last) :
    (c.answered answers).getLast? = some ⟨c, last⟩ := by
  obtain ⟨failed, rfl, _⟩ := h.earlier
  simp [Call.answered]

namespace Reconciler

variable {r : Reconciler} {t : Transport σ ε} {id : Option String} {a : Action} {reads changes : History ε}
  {found : Except (ReconcileError ε) (Option FieldMap)} {result : Except (ReconcileError ε) Outcome}

theorem Reading.kind (h : r.Reading t id reads found) : ∀ x ∈ reads, x.call.kind = .read :=
  fun x hx => Call.kind_eq_read.2 (h.isMutating x hx)

theorem Changing.isMutating (h : r.Changing t id a changes result) :
    ∀ x ∈ changes, x.call.isMutating = true := by
  intro x hx
  cases h with
  | noop | updateUnknown | replaceUnknown => cases hx
  | create | update | keep =>
    rw [Call.eq_of_mem_answered hx]
    rfl
  | replace =>
    rcases List.mem_append.1 hx with hx | hx
    all_goals
      rw [Call.eq_of_mem_answered hx]
      rfl

/-- An action gives what its plan yields, if the last call that it made succeeds. -/
theorem Changing.yields (h : r.Changing t id a changes result)
    (hid : id = none → ∃ desired, a = .create desired) :
    (∃ outcome, result = .ok outcome ∧ (Plan.single a).Yields id outcome) ∨
      ∃ e x, result = .error e ∧ changes.getLast? = some x ∧ x.answer.toBool = false := by
  cases h with
  | noop => exact .inl ⟨_, rfl, .noop⟩
  | @create _ desired answers last tries =>
    cases last with
    | ok newId => exact .inl ⟨_, rfl, .create⟩
    | error e => exact .inr ⟨_, _, rfl, tries.getLast?_answered, rfl⟩
  | @update i changed accompanying answers last tries =>
    cases last with
    | ok movedTo =>
      have hfields : (Plan.single (.update changed accompanying)).changedFields = changed.keys :=
        List.append_nil _
      refine .inl ⟨.updated changed.keys movedTo, rfl, ?_⟩
      rw [← hfields]
      exact .update rfl
    | error e => exact .inr ⟨_, _, rfl, tries.getLast?_answered, rfl⟩
  | keep tries => exact .inr ⟨_, _, rfl, tries.getLast?_answered, rfl⟩
  | @replace i reason desired deletes creates last deleted tries =>
    cases last with
    | ok newId => exact .inl ⟨_, rfl, .replace rfl⟩
    | error e =>
      refine .inr ⟨_, ⟨.create desired, .error e⟩, rfl, ?_, rfl⟩
      rw [List.getLast?_append, tries.getLast?_answered]
      rfl
  | updateUnknown | replaceUnknown =>
    obtain ⟨_, ha⟩ := hid rfl
    cases ha

end Reconciler

/-! ## Agreement -/

namespace Workspace

variable [ToString ε]

/-- Applying a resource carries out the plan that was made for it with these reads: the same reads come
first, and then the calls of the one action of the plan, for the resource on record. The outcome is one
that the plan yields, unless the last of these calls failed. -/
def CarriesOut (w : Workspace) (d : Declaration) (t : Transport σ ε) (s : Site σ) (p : Plan)
    (reads : History ε) : Prop :=
  ∃ schema record a changes result, w.registry.get? d.kind = some schema ∧
    s.store.load d.address = .ok record ∧ p = .single a ∧
    Course t s.world (reads ++ changes) (w.applyResource d t s).2.world ∧
    (∀ x ∈ changes, x.call.isMutating = true) ∧
    Reconciler.Changing ⟨schema, w.retry⟩ t (record.map (·.remoteId)) a changes result ∧
    (w.applyResource d t s).1 = result.mapError (.reconcile d.address) ∧
    ((∃ outcome, result = .ok outcome ∧ p.Yields (record.map (·.remoteId)) outcome) ∨
      ∃ e x, result = .error e ∧ changes.getLast? = some x ∧ x.answer.toBool = false)

/-- Applying a resource stops after these reads: it fails, and the store is as it was. -/
def StopsAfter (w : Workspace) (d : Declaration) (t : Transport σ ε) (s : Site σ) (reads : History ε) : Prop :=
  Course t s.world reads (w.applyResource d t s).2.world ∧
    (∃ e, (w.applyResource d t s).1 = .error e) ∧ (w.applyResource d t s).2.store = s.store

/-- Planning a resource with these reads agrees with applying it from the same state. -/
structure Agrees (w : Workspace) (d : Declaration) (t : Transport σ ε) (s : Site σ) (reads : History ε) :
    Prop where
  course : Course t s.world reads (w.planResource d t s).2.world
  kind : ∀ x ∈ reads, x.call.kind = .read
  store : (w.planResource d t s).2.store = s.store
  /-- Planning leaves alone all of the remote that no read changes. -/
  untouched : ∀ {β : Type} (view : σ → β),
    (∀ id remote, view (t.exchange (.read id) remote).2 = view remote) →
      view (w.planResource d t s).2.world.remote = view s.world.remote
  planned : ∀ p, (w.planResource d t s).1 = .ok p → w.CarriesOut d t s p reads
  unplanned : ∀ e, (w.planResource d t s).1 = .error e → w.StopsAfter d t s reads

section
variable {w : Workspace} {d : Declaration} {t : Transport σ ε} {s : Site σ} {schema : Schema}
  {record : Option ResourceRecord} {reads : History ε}

theorem Agrees.of_run {result : Except (WorkspaceError ε) Plan} {w' : World σ}
    (hplan : w.planResource d t s = (result, ⟨w', s.store⟩)) (hcourse : Course t s.world reads w')
    (hkind : ∀ x ∈ reads, x.call.kind = .read) (hok : ∀ p, result = .ok p → w.CarriesOut d t s p reads)
    (herror : ∀ e, result = .error e → w.StopsAfter d t s reads) : w.Agrees d t s reads := by
  refine ⟨?_, hkind, ?_, fun view hview => ?_, ?_, ?_⟩
  all_goals rw [hplan]
  · exact hcourse
  · exact Transport.replay_of_reads hview hkind hcourse.remote
  · exact hok
  · exact herror

/-- Where planning fails before it reads, applying must fail there as well. -/
theorem Agrees.of_error {e : WorkspaceError ε} (hplan : w.planResource d t s = (.error e, s))
    (hstop : w.StopsAfter d t s []) : w.Agrees d t s [] :=
  .of_run hplan (Course.refl s.world) nofun nofun fun _ _ => hstop

theorem stopsAfter_of_error {e : WorkspaceError ε} (h : w.applyResource d t s = (.error e, s)) :
    w.StopsAfter d t s [] := by
  unfold StopsAfter
  rw [h]
  exact ⟨Course.refl s.world, ⟨e, rfl⟩, rfl⟩

variable (hk : w.registry.get? d.kind = some schema)
  (hr : (recordOf s.store d : Except (WorkspaceError ε) _) = .ok record)
include hk hr

theorem stopsAfter_of_run {e : ReconcileError ε} {w' : World σ}
    (hm : Makes t (Reconciler.reconcile ⟨schema, w.retry⟩ t (record.map (·.remoteId)) d.fields) s.world reads
      (.error e) w') : w.StopsAfter d t s reads := by
  obtain ⟨w'', hcourse, hrun⟩ := applyResource_of_run hk hr hm
  unfold StopsAfter
  rw [hrun]
  exact ⟨hcourse, ⟨_, rfl⟩, rfl⟩

/-- With the reads done, applying goes on where planning stops: without a plan it fails as well, and with
a plan it makes the same one and carries it out. -/
theorem agrees_of_read {desired : FieldMap} {remote : Option FieldMap} {w₁ : World σ}
    (hd : schema.resolveDesired d.fields = .ok desired)
    (hread : Makes t (Reconciler.readKnown ⟨schema, w.retry⟩ t (record.map (·.remoteId))) s.world reads
      (.ok remote) w₁)
    (hreading : Reconciler.Reading ⟨schema, w.retry⟩ t (record.map (·.remoteId)) reads (.ok remote)) :
    (∀ p, Plan.compute schema d.fields remote = .ok p → w.CarriesOut d t s p reads) ∧
      ∀ e, Plan.compute schema d.fields remote = .error e → w.StopsAfter d t s reads := by
  constructor
  · intro p hp
    obtain ⟨a, rfl⟩ := Plan.exists_single hp
    obtain ⟨history, result, w', hm, changes, rfl, hchanging⟩ := Reconciler.makes_reconcile_of_read hd hread
      (P := fun history result => ∃ changes, history = reads ++ changes ∧
        Reconciler.Changing ⟨schema, w.retry⟩ t (record.map (·.remoteId)) a changes result)
      fun text w₁ => by
        obtain ⟨changes, result, w', hm, hchanging⟩ := Reconciler.makes_planned (r := ⟨schema, w.retry⟩)
          (t := t) hp text w₁
        exact ⟨changes, result, w', hm, changes, rfl, hchanging⟩
    obtain ⟨w'', hcourse, hrun⟩ := applyResource_of_run hk hr hm
    have hload := (recordOf_eq_ok.1 hr).1
    have hyields := hchanging.yields fun hid => ⟨desired, Reconciler.create_of_reading hreading hd hp hid⟩
    refine ⟨schema, record, a, changes, result, hk, hload, rfl, ?_, hchanging.isMutating, hchanging, ?_, hyields⟩
    · rw [hrun]
      exact hcourse
    · rw [hrun]
  · intro e hp
    obtain ⟨history, result, w', hm, rfl, rfl⟩ := Reconciler.makes_reconcile_of_read hd hread
      (P := fun history result => history = reads ∧ result = .error (.field e))
      fun text w₁ => ⟨[], _, w₁, Reconciler.makes_unplanned hp text w₁, List.append_nil _, rfl⟩
    exact stopsAfter_of_run hk hr hm

end

/-- **Planning a resource and applying it agree**, from any state and whatever the transport does. Planning
only reads: the store is as it was, and so is all of the remote that no read changes. If it gives a plan,
applying makes the same reads and carries out this plan; if it fails, applying makes the same reads and
fails as well. -/
theorem planResource_agrees (w : Workspace) (d : Declaration) (t : Transport σ ε) (s : Site σ) :
    ∃ reads, w.Agrees d t s reads := by
  cases hk : w.registry.get? d.kind with
  | none =>
    have hstop := stopsAfter_of_error (applyResource_of_unknown (t := t) (s := s) hk)
    exact ⟨[], .of_error (planResource_of_unknown hk) hstop⟩
  | some schema =>
    cases hr : (recordOf s.store d : Except (WorkspaceError ε) _) with
    | error e =>
      have hstop := stopsAfter_of_error (applyResource_of_unrecorded (t := t) hk hr)
      -- planning may find the declaration invalid before it comes to the record
      cases hd : schema.resolveDesired d.fields with
      | error _ => exact ⟨[], .of_error (planResource_of_invalid hk hd) hstop⟩
      | ok _ => exact ⟨[], .of_error (planResource_of_unrecorded hk hd hr) hstop⟩
    | ok record =>
      cases hd : schema.resolveDesired d.fields with
      | error e =>
        have hstop := stopsAfter_of_run hk hr (Reconciler.makes_reconcile_of_invalid (t := t) (w := s.world) hd)
        exact ⟨[], .of_error (planResource_of_invalid hk hd) hstop⟩
      | ok desired =>
        obtain ⟨reads, found, w₁, hread, hreading⟩ := Reconciler.makes_readKnown (r := ⟨schema, w.retry⟩) (t := t)
          (record.map (·.remoteId)) s.world
        have hplan := planResource_of_read hk hd hr hread.run
        cases found with
        | error e =>
          have hstop := stopsAfter_of_run hk hr (Reconciler.makes_reconcile_of_unread hd hread)
          refine ⟨reads, .of_run hplan hread.course hreading.kind ?_ fun _ _ => hstop⟩
          rintro _ ⟨⟩
        | ok remote =>
          obtain ⟨hcarries, hstops⟩ := agrees_of_read hk hr hd hread hreading
          cases hc : Plan.compute schema d.fields remote with
          | error e =>
            simp only [Except.bind, Reconciler.plan, hc, Except.mapError] at hplan
            refine ⟨reads, .of_run hplan hread.course hreading.kind ?_ fun _ _ => hstops e hc⟩
            rintro _ ⟨⟩
          | ok p =>
            simp only [Except.bind, Reconciler.plan, hc, Except.mapError] at hplan
            refine ⟨reads, .of_run hplan hread.course hreading.kind ?_ ?_⟩
            · rintro _ ⟨⟩
              exact hcarries p hc
            · rintro _ ⟨⟩

end Workspace

end Converge
