import Converge.Proofs.ReadBack
import Converge.Proofs.Sites

/-!
# Applying a manifest

A manifest is applied by applying its resources in order, up to the first that fails. `Applied` lists the ones that
were applied, and `Fails` the ways in which one can fail: each leaves the store as it is. The store is kept in step
resource by resource, so that a failed run leaves the records of what was applied before it and touches no other
(`Workspace.Applied.load`, `Workspace.Applied.rows`). Main theorem: `Workspace.applyAll_stops`.
-/

namespace Converge

variable {σ ε : Type}

/-! ## Valid manifests -/

namespace Manifest

variable {registry : Registry} {before : List String} {ds : List Declaration} {m : Manifest}

/-- The addresses of a list of declarations with nothing wrong are distinct. -/
theorem nodup_of_firstError (h : firstError registry before ds = none) :
    (∀ d ∈ ds, d.address ∉ before) ∧ (ds.map (·.address)).Nodup := by
  induction ds generalizing before with
  | nil => exact ⟨nofun, List.nodup_nil⟩
  | cons d ds ih =>
    unfold firstError at h
    split_ifs at h with _ hbefore
    obtain ⟨hnew, hnodup⟩ := ih h
    refine ⟨List.forall_mem_cons.2 ⟨hbefore, fun d' hd' hmem => hnew d' hd' (List.mem_cons_of_mem _ hmem)⟩, ?_⟩
    refine List.nodup_cons.2 ⟨fun hmem => ?_, hnodup⟩
    obtain ⟨d', hd', he⟩ := List.mem_map.1 hmem
    exact hnew d' hd' (he ▸ List.mem_cons_self)

/-- The kinds of a list of declarations with nothing wrong are known. -/
theorem known_of_firstError (h : firstError registry before ds = none) :
    ∀ d ∈ ds, ∃ schema, registry.get? d.kind = some schema := by
  induction ds generalizing before with
  | nil => exact nofun
  | cons d ds ih =>
    unfold firstError at h
    split_ifs at h with _ _ hkind
    refine List.forall_mem_cons.2 ⟨Option.ne_none_iff_exists'.1 ?_, ih h⟩
    simpa using hkind

theorem firstError_of_validate (h : m.validate registry = .ok ()) : firstError registry [] m.resources = none := by
  unfold validate at h
  split at h
  · cases h
  · assumption

theorem nodup_of_validate (h : m.validate registry = .ok ()) : (m.resources.map (·.address)).Nodup :=
  (nodup_of_firstError (firstError_of_validate h)).2

end Manifest

/-! ## Applying one resource -/

/-- After a success the resource has an id, a new one or the one that was known. -/
theorem Reconciler.Ran.exists_id {r : Reconciler} {t : Transport σ ε} {known : Option String} {desired : FieldMap}
    {found : Except (ReconcileError ε) (Option FieldMap)} {history : History ε} {outcome : Outcome}
    (h : r.Ran t known desired found history (.ok outcome)) : ∃ id, outcome.newId.or known = some id := by
  cases known with
  | some id => cases outcome.newId <;> simp
  | none =>
    generalize hresult : Except.ok outcome = result at h
    cases h with
    | invalid | unread | unplanned => cases hresult
    | applied hd reading plan changing =>
      -- without an id there is nothing but to create the resource
      cases create_of_reading reading hd plan rfl
      cases changing with
      | @create _ _ _ last =>
        cases last with
        | error e => cases hresult
        | ok id =>
          cases hresult
          exact ⟨id, rfl⟩

def Site.logged (s : Site σ) (level : Level) (text : String) : Site σ :=
  { s with world := { s.world with journal := s.world.journal ++ [.note (.line level text)] } }

namespace Workspace

/-- The id under which an address is on record. -/
def knownId (store : StateStore) (address : String) : Option String := (store.rows.get? address).map (·.remoteId)

theorem knownId_of_recordOf {store : StateStore} {d : Declaration} {record : Option ResourceRecord}
    (hr : (recordOf store d : Except (WorkspaceError ε) _) = .ok record) :
    record.map (·.remoteId) = knownId store d.address := by
  have hrow := congrArg (Option.map fun x : String × String × String => x.2.2)
    (StateStore.eq_row_of_load (recordOf_eq_ok.1 hr).1)
  rw [knownId]
  simpa only [Option.map_map, Function.comp_def] using hrow

variable [ToString ε]

/-- Applying a resource fails, with an error and a site. There is no transport of its kind; or its record is corrupt or
of another kind; or it is reconciled without success. Of these only the last makes calls, those of the one
reconciliation, and none changes the store. -/
inductive Fails (w : Workspace) (transports : Transports σ ε) (d : Declaration) (s : Site σ) :
    WorkspaceError ε → Site σ → Prop
  | untransported (none : transports d.kind = none) : Fails w transports d s (.noTransport d.kind) s
  | unrecorded {t e} (transport : transports d.kind = some t) (record : recordOf s.store d = .error e)
      (run : w.applyResource d t s = (.error e, s)) : Fails w transports d s e s
  | unreconciled {t schema found history e world} (transport : transports d.kind = some t)
      (kind : w.registry.get? d.kind = some schema)
      (ran : Reconciler.Ran ⟨schema, w.retry⟩ t (knownId s.store d.address) d.fields found history (.error e))
      (course : Course t s.world history world)
      (run : w.applyResource d t s = (.error (.reconcile d.address e), ⟨world, s.store⟩)) :
    Fails w transports d s (.reconcile d.address e) ⟨world, s.store⟩

/-- Applying a resource succeeds, with an outcome and a site: it is reconciled, and then on record as it is declared,
under its new id or the one that was on record. -/
inductive Succeeds (w : Workspace) (transports : Transports σ ε) (d : Declaration) (s : Site σ) :
    Outcome → Site σ → Prop
  | reconciled {t schema found history outcome id world} (transport : transports d.kind = some t)
      (kind : w.registry.get? d.kind = some schema)
      (ran : Reconciler.Ran ⟨schema, w.retry⟩ t (knownId s.store d.address) d.fields found history (.ok outcome))
      (course : Course t s.world history world)
      (known : outcome.newId.or (knownId s.store d.address) = some id)
      (run : w.applyResource d t s = (.ok outcome, ⟨world, s.store.save ⟨d.address, d.kind, id, d.fields⟩⟩)) :
    Succeeds w transports d s outcome ⟨world, s.store.save ⟨d.address, d.kind, id, d.fields⟩⟩

section
variable {w : Workspace} {transports : Transports σ ε} {d : Declaration} {t : Transport σ ε} {s s' : Site σ}
  {e : WorkspaceError ε} {outcome : Outcome} {schema : Schema}

theorem Fails.store_eq (h : w.Fails transports d s e s') : s'.store = s.store := by
  cases h <;> rfl

/-- What was applied is on record as it is declared, and no other record has changed. -/
theorem Succeeds.store (h : w.Succeeds transports d s outcome s') :
    (∃ id, outcome.newId.or (knownId s.store d.address) = some id ∧
      s'.store.load d.address = .ok (some ⟨d.address, d.kind, id, d.fields⟩)) ∧
    ∀ address, d.address ≠ address → s'.store.rows.get? address = s.store.rows.get? address := by
  cases h with
  | @reconciled _ _ _ _ _ id _ _ _ _ _ known =>
    let r : ResourceRecord := ⟨d.address, d.kind, id, d.fields⟩
    exact ⟨⟨id, known, s.store.load_save r⟩, fun address hne => s.store.get?_edit_of_ne (e := .save r) hne⟩

/-- **How applying a resource of a known kind goes**: it fails or it succeeds. -/
theorem fails_or_succeeds (hk : w.registry.get? d.kind = some schema) (transports : Transports σ ε) (s : Site σ) :
    (∃ e s', w.Fails transports d s e s') ∨ ∃ outcome s', w.Succeeds transports d s outcome s' := by
  cases ht : transports d.kind with
  | none => exact .inl ⟨_, s, .untransported ht⟩
  | some t =>
    cases hr : (recordOf s.store d : Except (WorkspaceError ε) _) with
    | error e => exact .inl ⟨e, s, .unrecorded ht hr (applyResource_of_unrecorded hk hr)⟩
    | ok record =>
      obtain ⟨history, result, w', hm, hran⟩ := Reconciler.reconcile_ran (r := ⟨schema, w.retry⟩) (t := t)
        (record.map (·.remoteId)) d.fields s.world
      obtain ⟨world, hcourse, hrun⟩ := applyResource_of_run hk hr hm
      rw [knownId_of_recordOf hr] at hran hrun
      cases result with
      | error e => exact .inl ⟨_, _, .unreconciled ht hk hran hcourse hrun⟩
      | ok outcome =>
        obtain ⟨id, hid⟩ := hran.exists_id
        simp only [StateStore.after, hid, StateStore.noted] at hrun
        exact .inr ⟨outcome, _, .reconciled ht hk hran hcourse hid hrun⟩

end

/-! ## Applying one resource after the other -/

section
variable {w : Workspace} {transports : Transports σ ε} {d : Declaration} {ds : List Declaration} {t : Transport σ ε}
  {s s' s₁ : Site σ} {outcome : Outcome} {outcomes : List (String × Outcome)}

theorem applyEach_of_untransported (ht : transports d.kind = none) :
    w.applyEach transports (d :: ds) s = (.error (.noTransport d.kind), s) := by
  rw [applyEach, bind_of_error (transportFor_of_none ht s)]

theorem applyEach_cons (ht : transports d.kind = some t) : w.applyEach transports (d :: ds) s = (do
    let outcome ← w.applyResource d t
    SiteRun.log .info (d.address ++ ": " ++ outcome.text)
    return (d.address, outcome) :: (← w.applyEach transports ds)) s := by
  rw [applyEach, bind_of_ok (transportFor_of_some ht s)]

theorem applyEach_of_error {e : WorkspaceError ε} (ht : transports d.kind = some t)
    (hd : w.applyResource d t s = (.error e, s₁)) : w.applyEach transports (d :: ds) s = (.error e, s₁) := by
  rw [applyEach_cons ht, bind_of_error hd]

/-- After the first resource was applied, the others are, on the site that it left. -/
theorem applyEach_of_ok (ht : transports d.kind = some t) (hd : w.applyResource d t s = (.ok outcome, s₁))
    {rest : Except (WorkspaceError ε) (List (String × Outcome))}
    (hds : w.applyEach transports ds (s₁.logged .info (d.address ++ ": " ++ outcome.text)) = (rest, s')) :
    w.applyEach transports (d :: ds) s = (rest.map ((d.address, outcome) :: ·), s') := by
  have hlog : SiteRun.log (ε := ε) .info (d.address ++ ": " ++ outcome.text) s₁ =
      (.ok (), s₁.logged .info (d.address ++ ": " ++ outcome.text)) := rfl
  rw [applyEach_cons ht, bind_of_ok hd, bind_of_ok hlog]
  cases rest with
  | error e => exact bind_of_error hds
  | ok rest => exact bind_of_ok hds

/-- Resources are applied by applying the first one and then the others. -/
theorem applyEach_cons_eq_ok : w.applyEach transports (d :: ds) s = (.ok outcomes, s') ↔
    ∃ t outcome s₁ rest, transports d.kind = some t ∧ w.applyResource d t s = (.ok outcome, s₁) ∧
      w.applyEach transports ds (s₁.logged .info (d.address ++ ": " ++ outcome.text)) = (.ok rest, s') ∧
      outcomes = (d.address, outcome) :: rest := by
  constructor
  · intro h
    cases ht : transports d.kind with
    | none =>
      rw [applyEach_of_untransported ht] at h
      cases h
    | some t =>
      rcases hd : w.applyResource d t s with ⟨_ | outcome, s₁⟩
      · rw [applyEach_of_error ht hd] at h
        cases h
      · rcases hds : w.applyEach transports ds (s₁.logged .info (d.address ++ ": " ++ outcome.text)) with ⟨rest, s₂⟩
        rw [applyEach_of_ok ht hd hds] at h
        cases rest with
        | error e => cases h
        | ok rest =>
          cases h
          exact ⟨t, outcome, s₁, rest, rfl, hd, hds, rfl⟩
  · rintro ⟨t, outcome, s₁, rest, ht, hd, hds, rfl⟩
    exact applyEach_of_ok ht hd hds

end

/-- Resources are applied one after the other, with these outcomes. -/
inductive Applied (w : Workspace) (transports : Transports σ ε) :
    List (Declaration × Outcome) → Site σ → Site σ → Prop
  | nil {s} : Applied w transports [] s s
  | cons {d outcome s s₁ s' done} (first : w.Succeeds transports d s outcome s₁)
      (rest : Applied w transports done (s₁.logged .info (d.address ++ ": " ++ outcome.text)) s') :
      Applied w transports ((d, outcome) :: done) s s'

section
variable {w : Workspace} {transports : Transports σ ε} {d : Declaration} {ds : List Declaration} {s s' s₁ : Site σ}
  {done : List (Declaration × Outcome)} {outcome : Outcome} {e : WorkspaceError ε}

theorem Fails.applyEach (h : w.Fails transports d s e s') (ds : List Declaration) :
    w.applyEach transports (d :: ds) s = (.error e, s') := by
  cases h with
  | untransported none => exact applyEach_of_untransported none
  | unrecorded transport _ run => exact applyEach_of_error transport run
  | unreconciled transport _ _ _ run => exact applyEach_of_error transport run

theorem Succeeds.applyEach (h : w.Succeeds transports d s outcome s₁)
    {rest : Except (WorkspaceError ε) (List (String × Outcome))}
    (hds : w.applyEach transports ds (s₁.logged .info (d.address ++ ": " ++ outcome.text)) = (rest, s')) :
    w.applyEach transports (d :: ds) s = (rest.map ((d.address, outcome) :: ·), s') := by
  cases h with
  | reconciled transport _ _ _ _ run => exact applyEach_of_ok transport run hds

/-- What was applied, in what order ever, has left the records of all other addresses alone. -/
theorem Applied.rows (h : w.Applied transports done s s') {address : String}
    (hne : ∀ x ∈ done, x.1.address ≠ address) : s'.store.rows.get? address = s.store.rows.get? address := by
  induction h with
  | nil => rfl
  | cons first _ ih =>
    obtain ⟨hd, hdone⟩ := List.forall_mem_cons.1 hne
    exact (ih hdone).trans (first.store.2 _ hd)

/-- **What was applied is on record** as it is declared, under its new id or the one that was on record. -/
theorem Applied.load (h : w.Applied transports done s s') (hnodup : (done.map (·.1.address)).Nodup) :
    ∀ x ∈ done, ∃ id, x.2.newId.or (knownId s.store x.1.address) = some id ∧
      s'.store.load x.1.address = .ok (some ⟨x.1.address, x.1.kind, id, x.1.fields⟩) := by
  induction h with
  | nil => exact nofun
  | @cons d outcome s s₁ s' done first rest ih =>
    obtain ⟨hnew, hnodup⟩ := List.nodup_cons.1 hnodup
    have hapart : ∀ x ∈ done, d.address ≠ x.1.address := fun x hx he => hnew (List.mem_map.2 ⟨x, hx, he.symm⟩)
    refine List.forall_mem_cons.2 ⟨?_, fun x hx => ?_⟩
    · obtain ⟨id, hid, hload⟩ := first.store.1
      have hkept : s'.store.rows.get? d.address = s₁.store.rows.get? d.address :=
        rest.rows fun x hx => (hapart x hx).symm
      exact ⟨id, hid, (StateStore.load_congr hkept).trans hload⟩
    · -- the record of a later resource is what it was at the start
      obtain ⟨id, hid, hload⟩ := ih hnodup x hx
      have hbefore : knownId s₁.store x.1.address = knownId s.store x.1.address := by
        rw [knownId, knownId, first.store.2 _ (hapart x hx)]
      exact ⟨id, hbefore ▸ hid, hload⟩

/-- A run ends with the last resource or with the first that fails. -/
theorem applyEach_cases (hk : ∀ d ∈ ds, ∃ schema, w.registry.get? d.kind = some schema)
    (transports : Transports σ ε) (s : Site σ) :
    ∃ done s₁, w.Applied transports done s s₁ ∧
      ((ds = done.map (·.1) ∧ w.applyEach transports ds s = (.ok (done.map fun x => (x.1.address, x.2)), s₁)) ∨
        ∃ d rest e s', ds = done.map (·.1) ++ d :: rest ∧ w.Fails transports d s₁ e s' ∧
          w.applyEach transports ds s = (.error e, s')) := by
  induction ds generalizing s with
  | nil => exact ⟨[], s, .nil, .inl ⟨rfl, rfl⟩⟩
  | cons d ds ih =>
    obtain ⟨⟨schema, hd⟩, hds⟩ := List.forall_mem_cons.1 hk
    rcases fails_or_succeeds hd transports s with ⟨e, s', hfails⟩ | ⟨outcome, s₁, hfirst⟩
    · exact ⟨[], s, .nil, .inr ⟨d, ds, e, s', rfl, hfails, hfails.applyEach ds⟩⟩
    · obtain ⟨done, s₂, hdone, ⟨rfl, hrun⟩ | ⟨d', rest, e, s', rfl, hfails, hrun⟩⟩ :=
        ih hds (s₁.logged .info (d.address ++ ": " ++ outcome.text))
      · exact ⟨(d, outcome) :: done, s₂, .cons hfirst hdone, .inl ⟨rfl, hfirst.applyEach hrun⟩⟩
      · exact ⟨(d, outcome) :: done, s₂, .cons hfirst hdone, .inr ⟨d', rest, e, s', rfl, hfails, hfirst.applyEach hrun⟩⟩

end

/-! ## Applying a manifest -/

section
variable {w : Workspace} {m : Manifest} {transports : Transports σ ε} {s s' : Site σ}

theorem applyAll_of_invalid {e : ManifestError} (h : m.validate w.registry = .error e) :
    w.applyAll m transports s = (.error (.manifest e), s) :=
  bind_of_error (ofExcept_eq (by rw [h]; rfl) s)

theorem applyAll_of_valid (h : m.validate w.registry = .ok ()) :
    w.applyAll m transports s = w.applyEach transports m.resources s :=
  bind_of_ok (ofExcept_eq (by rw [h]; rfl) s)

/-- A manifest is applied by applying its resources, if it is valid. -/
theorem applyAll_eq_ok {outcomes : List (String × Outcome)} :
    w.applyAll m transports s = (.ok outcomes, s') ↔
      m.validate w.registry = .ok () ∧ w.applyEach transports m.resources s = (.ok outcomes, s') := by
  cases hvalid : m.validate w.registry with
  | error e =>
    rw [applyAll_of_invalid hvalid]
    simp only [reduceCtorEq, false_and, iff_false]
    rintro ⟨⟩
  | ok _ => simp [applyAll_of_valid hvalid]

end

/-- **A failed run leaves what was applied before it and nothing else.** An invalid manifest is refused on the site as
it is. The resources of a valid one are applied in order; either all of them succeed, or the run ends with the
error and on the site of the first that fails. Each resource that was applied is on record with its kind and its
fields, under its new id or the one that was on record; all other records are as they were, that of the failed
resource and those after it among them. -/
theorem applyAll_stops (w : Workspace) (m : Manifest) (transports : Transports σ ε) (s : Site σ) :
    match m.validate w.registry with
    | .error e => w.applyAll m transports s = (.error (.manifest e), s)
    | .ok () => ∃ done s₁, w.Applied transports done s s₁ ∧
      (∀ x ∈ done, ∃ id, x.2.newId.or (knownId s.store x.1.address) = some id ∧
        s₁.store.load x.1.address = .ok (some ⟨x.1.address, x.1.kind, id, x.1.fields⟩)) ∧
      (∀ address, (∀ x ∈ done, x.1.address ≠ address) →
        s₁.store.rows.get? address = s.store.rows.get? address) ∧
      ((m.resources = done.map (·.1) ∧
          w.applyAll m transports s = (.ok (done.map fun x => (x.1.address, x.2)), s₁)) ∨
        ∃ d rest e s', m.resources = done.map (·.1) ++ d :: rest ∧ w.Fails transports d s₁ e s' ∧
          w.applyAll m transports s = (.error e, s') ∧ s'.store = s₁.store ∧
          ∀ d' ∈ d :: rest, s'.store.rows.get? d'.address = s.store.rows.get? d'.address) := by
  cases hvalid : m.validate w.registry with
  | error e => exact applyAll_of_invalid hvalid
  | ok _ =>
    obtain ⟨done, s₁, hdone, hend⟩ :=
      applyEach_cases (Manifest.known_of_firstError (Manifest.firstError_of_validate hvalid)) transports s
    rw [← applyAll_of_valid hvalid] at hend
    obtain ⟨left, hleft⟩ : ∃ left, m.resources = done.map (·.1) ++ left := by
      rcases hend with ⟨hm, _⟩ | ⟨d, rest, _, _, hm, _⟩
      · exact ⟨[], by rw [hm, List.append_nil]⟩
      · exact ⟨d :: rest, hm⟩
    have hnodup := Manifest.nodup_of_validate hvalid
    rw [hleft, List.map_append, List.map_map, List.nodup_append] at hnodup
    obtain ⟨hdistinct, _, hapart⟩ := hnodup
    refine ⟨done, s₁, hdone, hdone.load hdistinct, fun address => hdone.rows, hend.imp_right ?_⟩
    rintro ⟨d, rest, e, s', hm, hfails, hrun⟩
    obtain rfl : left = d :: rest := List.append_cancel_left (hleft.symm.trans hm)
    refine ⟨d, rest, e, s', hm, hfails, hrun, hfails.store_eq, fun d' hd' => ?_⟩
    rw [hfails.store_eq]
    exact hdone.rows fun x hx => hapart _ (List.mem_map_of_mem hx) _ (List.mem_map_of_mem hd')

end Workspace

end Converge
