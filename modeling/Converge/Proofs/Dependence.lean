import Converge.Proofs.Planning
import Converge.Proofs.Wire

/-!
# What a plan depends on

A plan looks at a declared value only through its normal form, and at a reported one only if the
declaration manages the attribute: two declarations of the same spelling have the same plans, the errors
included (`Plan.compute_eq_of_declared`), and so have two reported maps that are taken to hold the same
of every managed attribute (`Plan.compute_eq_of_managed`). Main theorem:
`Plan.compute_depends_on_managed`.
-/

namespace Converge

/-! ## One attribute -/

namespace FieldSpec

/-- The normal form of a value, if it can be computed. -/
def form? (f : FieldSpec) (v : FieldValue) : Option FieldValue :=
  if f.overflowsOn v then none else some (f.normalize v)

/-- The value that a reported map is taken to have of an attribute: the reported one, or the default. -/
def assumed (f : FieldSpec) (remote : FieldMap) : Option FieldValue := (remote.get? f.name).or f.default

/-- A declaration manages an attribute that is not the server's to set if it configures it, or if there is
a default to fall back on. -/
def Managed (f : FieldSpec) (desired : FieldMap) : Prop :=
  f.mutability ≠ .computed ∧ (desired.contains f.name = true ∨ f.default.isSome = true)

instance (f : FieldSpec) (desired : FieldMap) : Decidable (f.Managed desired) :=
  inferInstanceAs (Decidable (_ ∧ _))

variable {f : FieldSpec}

theorem form?_eq_some {v w : FieldValue} :
    f.form? v = some w ↔ f.overflowsOn v = false ∧ f.normalize v = w := by
  unfold form?
  cases f.overflowsOn v <;> simp

/-- The check of a value looks at its normal form only. -/
theorem checkType_congr {v w : FieldValue} (h : f.form? v = f.form? w) : f.checkType v = f.checkType w := by
  unfold form? at h
  unfold checkType
  cases hv : f.overflowsOn v <;> cases hw : f.overflowsOn w <;> simp_all

theorem desiredEntry_congr {a b : FieldMap} (h : (a.get? f.name).map f.form? = (b.get? f.name).map f.form?) :
    f.desiredEntry a = f.desiredEntry b := by
  unfold desiredEntry
  cases ha : a.get? f.name with
  | none =>
    cases hb : b.get? f.name with
    | none => rfl
    | some w => simp [ha, hb] at h
  | some v =>
    cases hb : b.get? f.name with
    | none => simp [ha, hb] at h
    | some w =>
      have hform : f.form? v = f.form? w := by simpa [ha, hb] using h
      simp only [checkDesired, checkType_congr hform]

theorem drift?_congr {d r r' : FieldMap}
    (h : f.mutability ≠ .computed → d.contains f.name = true → f.held r = f.held r') :
    f.drift? d r = f.drift? d r' := by
  unfold drift? isComputed
  by_cases hc : f.mutability = .computed
  · simp [hc]
  · cases hd : d.get? f.name with
    | none => simp
    | some want =>
      have hheld : (r.get? f.name).or f.defaultValue = (r'.get? f.name).or f.defaultValue :=
        h hc (by simp [hd])
      simp only [hheld]

/-- What a reported map is taken to have of an attribute, in terms of what it resolves to. -/
theorem map_form?_assumed {remote : FieldMap} {o : Option FieldValue} (h : f.remoteEntry remote = .ok o) :
    (f.assumed remote).map f.form? = (o.map some).or (f.default.map f.form?) := by
  unfold assumed
  rcases remoteEntry_eq_ok.1 h with ⟨v, w, hv, hcheck, rfl⟩ | ⟨hn, rfl⟩
  · obtain ⟨ho, hw, _⟩ := checkType_eq_ok.1 hcheck
    simp [hv, form?_eq_some.2 ⟨ho, hw⟩]
  · simp [hn]

/-- Maps that are taken to have the same of an attribute hold the same of it, and the comparison needs a
default that cannot be computed for both or for neither. -/
theorem held_isStuck_congr {remote remote' r r' : FieldMap} (hr : f.remoteEntry remote = .ok (r.get? f.name))
    (hr' : f.remoteEntry remote' = .ok (r'.get? f.name))
    (h : (f.assumed remote).map f.form? = (f.assumed remote').map f.form?) (d : FieldMap) :
    f.held r = f.held r' ∧ f.isStuck d r = f.isStuck d r' := by
  rw [map_form?_assumed hr, map_form?_assumed hr'] at h
  simp only [held, isStuck, defaultValue, defaultOverflows, SortedMap.contains_eq]
  cases hdef : f.default with
  | none =>
    cases hv : r.get? f.name <;> cases hw : r'.get? f.name <;> simp_all
  | some v =>
    cases ho : f.overflowsOn v <;> cases hv : r.get? f.name <;> cases hw : r'.get? f.name <;>
      simp_all [form?]

end FieldSpec

/-! ## All attributes -/

namespace Schema

variable {s : Schema} {d r r' : FieldMap}

theorem stuck?_congr {fs : List FieldSpec} (hdrift : ∀ f ∈ fs, f.drift? d r = f.drift? d r')
    (hstuck : ∀ f ∈ fs, f.isStuck d r = f.isStuck d r') : stuck? d r fs = stuck? d r' fs := by
  induction fs with
  | nil => rfl
  | cons f fs ih =>
    obtain ⟨hf, hfs⟩ := List.forall_mem_cons.1 hdrift
    obtain ⟨gf, gfs⟩ := List.forall_mem_cons.1 hstuck
    simp only [stuck?, hf, gf, ih hfs gfs]

theorem action_congr (hdrift : ∀ f ∈ s.fields, f.drift? d r = f.drift? d r') : s.action d r = s.action d r' := by
  have hdrifts : s.drifts d r = s.drifts d r' := List.filterMap_congr hdrift
  simp only [action, hdrifts]

/-- What a resolved declaration has an entry of is managed, if it is not the server's to set. -/
theorem managed_of_contains {desired : FieldMap} (hc : s.canonicalizer = none)
    (hd : s.resolveDesired desired = .ok d) {f : FieldSpec} (hf : f ∈ s.fields)
    (hmut : f.mutability ≠ .computed) (hmem : d.contains f.name = true) : f.Managed desired := by
  obtain ⟨_, m, hm, rfl⟩ := resolveDesired_eq_ok.1 hd
  rw [canonicalize_eq_self hc] at hmem
  exact ⟨hmut, (hm.isSome_get?_iff hf).1 hmem⟩

end Schema

namespace Plan

variable {s : Schema}

/-- **Spelling does not matter**: declarations of the same names, whose values have the same normal forms,
have the same plans. -/
theorem compute_eq_of_declared {desired desired' : FieldMap} (hkeys : desired.keys = desired'.keys)
    (h : ∀ f ∈ s.fields, (desired.get? f.name).map f.form? = (desired'.get? f.name).map f.form?)
    (remote : Option FieldMap) : compute s desired remote = compute s desired' remote := by
  have hentry : ∀ f ∈ s.fields, f.desiredEntry desired = f.desiredEntry desired' :=
    fun f hf => FieldSpec.desiredEntry_congr (h f hf)
  have hresolve : s.resolveDesired desired = s.resolveDesired desired' := by
    simp only [Schema.resolveDesired, hkeys, Schema.collect_congr hentry]
  simp only [compute, hresolve]

theorem compute_of_resolved {desired remote d r : FieldMap} (hd : s.resolveDesired desired = .ok d)
    (hr : s.resolveRemote remote = .ok r) :
    compute s desired (some remote) = match Schema.stuck? d r s.fields with
      | some f => .error (.overflow f.name)
      | none => .ok (single (s.action d r)) := by
  simp only [compute, hd, hr]
  rfl

/-- Reported maps of which a comparison finds out the same have the same plans. -/
theorem compute_eq_of_held {desired remote remote' r r' : FieldMap} (hr : s.resolveRemote remote = .ok r)
    (hr' : s.resolveRemote remote' = .ok r')
    (hheld : ∀ d, s.resolveDesired desired = .ok d → ∀ f ∈ s.fields, f.mutability ≠ .computed →
      d.contains f.name = true → f.held r = f.held r' ∧ f.isStuck d r = f.isStuck d r') :
    compute s desired (some remote) = compute s desired (some remote') := by
  cases hd : s.resolveDesired desired with
  | error e =>
    simp only [compute, hd]
    rfl
  | ok d =>
    have hdrift : ∀ f ∈ s.fields, f.drift? d r = f.drift? d r' := fun f hf =>
      FieldSpec.drift?_congr fun hc hmem => (hheld d hd f hf hc hmem).1
    have hstuck : ∀ f ∈ s.fields, f.isStuck d r = f.isStuck d r' := by
      intro f hf
      by_cases hc : f.mutability = .computed
      · simp [FieldSpec.isStuck, FieldSpec.isComputed, hc]
      · cases hmem : d.contains f.name with
        | false => simp only [FieldSpec.isStuck, hmem, Bool.and_false, Bool.false_and]
        | true => exact (hheld d hd f hf hc hmem).2
    rw [compute_of_resolved hd hr, compute_of_resolved hd hr', Schema.stuck?_congr hdrift hstuck,
      Schema.action_congr hdrift]

/-- **What is not managed does not matter**: reported maps that are accepted, and that are taken to hold
values of the same normal form for every managed attribute, have the same plans. -/
theorem compute_eq_of_managed (hc : s.canonicalizer = none) {desired remote remote' r r' : FieldMap}
    (hr : s.resolveRemote remote = .ok r) (hr' : s.resolveRemote remote' = .ok r')
    (h : ∀ f ∈ s.fields, f.Managed desired →
      (f.assumed remote).map f.form? = (f.assumed remote').map f.form?) :
    compute s desired (some remote) = compute s desired (some remote') := by
  refine compute_eq_of_held hr hr' fun d hd f hf hmut hmem => ?_
  obtain ⟨m, hm, rfl⟩ := Schema.resolveRemote_eq_ok.1 hr
  obtain ⟨m', hm', rfl⟩ := Schema.resolveRemote_eq_ok.1 hr'
  simp only [Schema.canonicalize_eq_self hc]
  have hmanaged : f.Managed desired := Schema.managed_of_contains hc hd hf hmut hmem
  exact FieldSpec.held_isStuck_congr (hm.entries f hf) (hm'.entries f hf) (h f hf hmanaged) d

/-- **A plan depends only on what is managed, and not on spelling.** Declarations of the same names whose
values have the same normal forms have the same plans against every reported map, or none. Over a schema
without a canonicalizer, accepted reported maps that are taken to hold values of the same normal form for
every managed attribute have the same plans for every declaration. Hence all other attributes, whether
undeclared, the server's or unmanaged, are without influence. -/
theorem compute_depends_on_managed :
    (∀ (s : Schema) (desired desired' : FieldMap), desired.keys = desired'.keys →
      (∀ f ∈ s.fields, (desired.get? f.name).map f.form? = (desired'.get? f.name).map f.form?) →
      ∀ remote, compute s desired remote = compute s desired' remote) ∧
    (∀ s : Schema, s.canonicalizer = none → ∀ desired remote remote' r r' : FieldMap,
      s.resolveRemote remote = .ok r → s.resolveRemote remote' = .ok r' →
      (∀ f ∈ s.fields, f.Managed desired →
        (f.assumed remote).map f.form? = (f.assumed remote').map f.form?) →
      compute s desired (some remote) = compute s desired (some remote')) ∧
    ∀ s : Schema, s.canonicalizer = none → ∀ desired remote remote' r r' : FieldMap,
      s.resolveRemote remote = .ok r → s.resolveRemote remote' = .ok r' →
      (∀ f ∈ s.fields, f.Managed desired → remote.get? f.name = remote'.get? f.name) →
      compute s desired (some remote) = compute s desired (some remote') := by
  refine ⟨fun s desired desired' hkeys h remote => compute_eq_of_declared hkeys h remote,
    fun s hc desired remote remote' r r' hr hr' h => compute_eq_of_managed hc hr hr' h,
    fun s hc desired remote remote' r r' hr hr' h => ?_⟩
  refine compute_eq_of_managed hc hr hr' fun f hf hmanaged => ?_
  simp only [FieldSpec.assumed, h f hf hmanaged]

/-- A key declared with a duration in words or in seconds; a server that says more or less of it, in other
spellings; and one that reports what the schema does not declare. -/
theorem compute_depends_on_managed_key :
    compute Vault.TransitKey.schema
        (.ofList [("auto_rotate_period", .string "1h"), ("backend", .string "/t/")]) none =
      compute Vault.TransitKey.schema
        (.ofList [("auto_rotate_period", .int 3600), ("backend", .string "t")]) none ∧
    compute Vault.TransitKey.schema (.ofList [("backend", .string "t")])
        (some (.ofList [("backend", .string "t/"), ("latest_version", .int 7)])) =
      compute Vault.TransitKey.schema (.ofList [("backend", .string "t")])
        (some (.ofList [("auto_rotate_period", .string "24h"), ("backend", .string "t"),
          ("exportable", .bool false), ("type", .string "AES256-GCM96")])) ∧
    compute Vault.TransitKey.schema (.ofList [("backend", .string "t")])
        (some (.ofList [("backend", .string "u"), ("imported_key", .bool true)])) =
      compute Vault.TransitKey.schema (.ofList [("backend", .string "t")])
        (some (.ofList [("backend", .string "u"), ("name", .string "/k")])) := by
  refine ⟨compute_depends_on_managed.1 _ _ _ (by decide) (by decide +kernel) none, ?_, ?_⟩
  · exact compute_depends_on_managed.2.1 Vault.TransitKey.schema rfl _ _ _
      (.ofList [("backend", .string "t"), ("latest_version", .int 7)])
      (.ofList [("auto_rotate_period", .int 86400), ("backend", .string "t"), ("exportable", .bool false),
        ("type", .string "aes256-gcm96")])
      (by decide +kernel) (by decide +kernel) (by decide +kernel)
  · exact compute_depends_on_managed.2.2 Vault.TransitKey.schema rfl _ _ _ (.ofList [("backend", .string "u")])
      (.ofList [("backend", .string "u"), ("name", .string "k")])
      (by decide +kernel) (by decide +kernel) (by decide +kernel)

end Plan

end Converge
