import Converge.Transport
import Converge.Proofs.BuiltIn
import Converge.Proofs.Planning

/-!
# Convergence of plans

Carrying out a plan once leaves nothing to do: planning again, against the state that the plan leads to,
gives the plan that does nothing. A recreated resource reports its resolved declaration, which resolves
to itself (`Plan.compute_of_settled`); an updated one reports what it reported before with the payload
written over it, and every attribute is then either as declared or as it was
(`Plan.compute_after_update`). Main theorem: `Plan.compute_converges`.
-/

namespace Converge

/-! ## The state that a plan leads to -/

/-- What is reported of a resource after an action, given what was reported before. -/
def Action.reportedAfter (before : Option FieldMap) : Action → Option FieldMap
  | .noop => before
  | .create desired => some desired
  | .update changed accompanying => before.map (·.overwrite (updatePayload changed accompanying))
  | .replace _ desired => some desired

/-- What is reported of a resource after a plan. -/
def Plan.reportedAfter (p : Plan) (before : Option FieldMap) : Option FieldMap :=
  p.actions.foldl Action.reportedAfter before

theorem get?_updatePayload (changed accompanying : FieldMap) (n : String) :
    (updatePayload changed accompanying).get? n = (changed.get? n).or (accompanying.get? n) := by
  simp [updatePayload]

namespace Schema

variable {s : Schema}

/-- A canonicalizer after which nothing is left to do. -/
def Stable (s : Schema) : Prop :=
  ∀ m, s.Settled m → s.Settled (s.canonicalize m) ∧ s.canonicalize (s.canonicalize m) = s.canonicalize m

theorem stable_of_canonicalizer_eq_none (hc : s.canonicalizer = none) : s.Stable :=
  fun m hm => by simp [canonicalize_eq_self hc, hm]

/-- What a declaration resolves to is settled and in its one spelling. -/
theorem settled_of_resolveDesired (hr : s.Regular) (hstable : s.Stable) {desired d : FieldMap}
    (h : s.resolveDesired desired = .ok d) : s.Settled d ∧ s.canonicalize d = d := by
  obtain ⟨_, m, hm, rfl⟩ := resolveDesired_eq_ok.1 h
  exact hstable m (settled_of_desired hr hm)

theorem settled_of_resolveRemote (hr : s.Regular) (hstable : s.Stable) {remote r : FieldMap}
    (h : s.resolveRemote remote = .ok r) : s.Settled r ∧ s.canonicalize r = r := by
  obtain ⟨m, hm, rfl⟩ := resolveRemote_eq_ok.1 h
  exact hstable m (settled_of_remote hr hm)

end Schema

theorem Vault.Mount.schema_stable : Vault.Mount.schema.Stable :=
  fun m hm => ⟨settled_foldVersionTwo hm, foldVersionTwo_foldVersionTwo m⟩

/-! ## Comparisons that find nothing -/

namespace Schema

variable {s : Schema}

theorem stuck?_eq_none {desired remote : FieldMap} {fs : List FieldSpec}
    (h : ∀ f ∈ fs, f.isStuck desired remote = false) : stuck? desired remote fs = none := by
  induction fs with
  | nil => rfl
  | cons f fs ih =>
    rw [stuck?, h f List.mem_cons_self]
    simp only [Bool.false_eq_true, if_false, ih fun g hg => h g (List.mem_cons_of_mem _ hg), ite_self]

/-- A comparison that no forced attribute ends gets past every attribute. -/
theorem isStuck_eq_false {desired remote : FieldMap} {fs : List FieldSpec}
    (h : stuck? desired remote fs = none) (hno : ∀ f ∈ fs, ¬ f.Forced desired remote) :
    ∀ f ∈ fs, f.isStuck desired remote = false := by
  induction fs with
  | nil => simp
  | cons f fs ih =>
    have hgo : ((f.drift? desired remote).map (·.forcesReplace)).getD false = false := by
      cases hd : f.drift? desired remote with
      | none => rfl
      | some x =>
        have hf := hno f List.mem_cons_self
        rw [FieldSpec.forced_iff hd] at hf
        simpa using hf
    rw [stuck?, hgo] at h
    split at h
    · cases h
    · rename_i hs
      refine List.forall_mem_cons.2 ⟨by simpa using hs, ih (by simpa using h) fun g hg => ?_⟩
      exact hno g (List.mem_cons_of_mem _ hg)

end Schema

namespace Plan

variable {s : Schema} {desired d r : FieldMap}

theorem compute_eq_noop {remote : FieldMap} (hd : s.resolveDesired desired = .ok d)
    (hr : s.resolveRemote remote = .ok r) (hno : ∀ f ∈ s.fields, ¬ f.Drifted d r)
    (hs : ∀ f ∈ s.fields, f.isStuck d r = false) :
    compute s desired (some remote) = .ok (single .noop) :=
  compute_eq_ok.2 ⟨d, hd, .inr ⟨remote, r, rfl, hr, Schema.stuck?_eq_none hs,
    by rw [Schema.action_eq_noop_iff.2 hno]⟩⟩

/-- For a report that cannot be resolved there is no plan. -/
theorem compute_of_resolveRemote_error {remote : FieldMap} {e : FieldError}
    (hd : s.resolveDesired desired = .ok d) (hr : s.resolveRemote remote = .error e) :
    compute s desired (some remote) = .error e := by
  simp only [compute, hd, hr, bind, Except.bind]

/-- A resource that reports its own resolved declaration is in line with it. -/
theorem compute_of_settled (hd : s.resolveDesired desired = .ok d) (hs : s.Settled d)
    (hc : s.canonicalize d = d) : compute s desired (some d) = .ok (single .noop) := by
  refine compute_eq_noop hd (by rw [Schema.resolveRemote_of_settled hs, hc]) ?_ ?_
  · rintro f hf ⟨_, want, hwant, hne⟩
    exact hne (by simp [FieldSpec.held, hwant])
  · intro f hf
    cases hw : d.get? f.name <;> simp [FieldSpec.isStuck, hw]

theorem compute_of_recreated (hr : s.Regular) (hstable : s.Stable) (hd : s.resolveDesired desired = .ok d) :
    compute s desired (some d) = .ok (single .noop) := by
  obtain ⟨hs, hc⟩ := Schema.settled_of_resolveDesired hr hstable hd
  exact compute_of_settled hd hs hc

/-! ## After an update -/

section
variable {changed accompanying : FieldMap} (hu : s.IsUpdate d r changed accompanying)
include hu

/-- An update sends declared values only. -/
theorem get?_payload {n : String} {v : FieldValue}
    (h : (updatePayload changed accompanying).get? n = some v) : d.get? n = some v := by
  rw [get?_updatePayload] at h
  rcases Option.or_eq_some_iff.1 h with hc | ⟨_, ha⟩
  · exact ((hu.changed_iff n v).1 hc).1
  · exact ((hu.accompanying_iff n v).1 ha).1

/-- An attribute that an update does not send has not drifted. -/
theorem not_drifted_of_payload {f : FieldSpec} (hf : f ∈ s.fields)
    (h : (updatePayload changed accompanying).get? f.name = none) : ¬ f.Drifted d r := by
  rintro ⟨hc, want, hw, hne⟩
  have hsent : changed.get? f.name = some want :=
    (hu.changed_iff f.name want).2 ⟨hw, f, hf, rfl, hc, want, hw, hne⟩
  simp [get?_updatePayload, hsent] at h

/-- What an updated resource resolves to: the payload written over what it resolved to before. -/
theorem collected_update (hs : s.Settled d) {remote : FieldMap}
    (hr : Schema.Collected (·.remoteEntry remote) s.fields r) :
    Schema.Collected (·.remoteEntry (remote.overwrite (updatePayload changed accompanying))) s.fields
      (r.overwrite (updatePayload changed accompanying)) := by
  constructor
  · intro f hf
    simp only [SortedMap.get?_overwrite]
    cases hp : (updatePayload changed accompanying).get? f.name with
    | some v => exact (hs.values f hf v (get?_payload hu hp)).remoteEntry (by simp [hp])
    | none =>
      have hentry := hr.entries f hf
      simp only [FieldSpec.remoteEntry, SortedMap.get?_overwrite, hp, Option.none_or] at hentry ⊢
      exact hentry
  · intro n hn
    have hp : (updatePayload changed accompanying).get? n = none := by
      refine Option.eq_none_iff_forall_ne_some.2 fun v hv => ?_
      have hd := get?_payload hu hv
      rw [hs.only n hn] at hd
      cases hd
    simp [hp, hr.only n hn]

end

/-- What an update comes from: both maps resolve, the comparison gets through, and nothing that has drifted
is forced. -/
theorem update_cases {remote changed accompanying : FieldMap}
    (h : compute s desired (some remote) = .ok (single (.update changed accompanying))) :
    ∃ d r, s.resolveDesired desired = .ok d ∧ s.resolveRemote remote = .ok r ∧ Schema.stuck? d r s.fields = none ∧
      s.IsUpdate d r changed accompanying ∧ ∀ f ∈ s.fields, ¬ f.Forced d r := by
  obtain ⟨d, hd, ⟨hn, _⟩ | ⟨_, r, hrem, hr, hstuck, hp⟩⟩ := compute_eq_ok.1 h
  · cases hn
  cases hrem
  have ha : s.action d r = .update changed accompanying := by
    simpa [single] using (congrArg Plan.actions hp).symm
  obtain ⟨_, hno⟩ := Schema.exists_action_eq_update_iff.1 ⟨_, _, ha⟩
  exact ⟨d, r, hd, hr, hstuck, Schema.isUpdate_of_action ha, hno⟩

/-- An update sends declared values of attributes that can change in place, or that go along with every
update. -/
theorem sent_of_payload {remote changed accompanying : FieldMap}
    (h : compute s desired (some remote) = .ok (single (.update changed accompanying)))
    (hd : s.resolveDesired desired = .ok d) {f : FieldSpec} (hf : f ∈ s.fields) {v : FieldValue}
    (hv : (updatePayload changed accompanying).get? f.name = some v) :
    d.get? f.name = some v ∧ (f.mutability = .mutable ∨ f.alwaysSend = true) := by
  obtain ⟨d', r, hd', _, _, hu, hno⟩ := update_cases h
  rw [hd] at hd'
  cases hd'
  refine ⟨get?_payload hu hv, ?_⟩
  rw [get?_updatePayload] at hv
  rcases Option.or_eq_some_iff.1 hv with hc | ⟨_, ha⟩
  · obtain ⟨_, g, hg, hname, hdrifted⟩ := (hu.changed_iff f.name v).1 hc
    rw [Schema.eq_of_name_eq hg hf hname] at hdrifted
    have hforced : f.mutability ≠ .immutable := fun hi => hno f hf ⟨hdrifted, .inl hi⟩
    have hcomputed : f.mutability ≠ .computed := hdrifted.1
    cases hm : f.mutability with
    | immutable => exact absurd hm hforced
    | mutable => exact .inl rfl
    | computed => exact absurd hm hcomputed
  · obtain ⟨_, _, g, hg, hname, halways⟩ := (hu.accompanying_iff f.name v).1 ha
    rw [Schema.eq_of_name_eq hg hf hname] at halways
    exact .inr halways

/-- An attribute that goes along with every update is sent as it is declared. -/
theorem payload_of_alwaysSend {remote changed accompanying : FieldMap}
    (h : compute s desired (some remote) = .ok (single (.update changed accompanying)))
    (hd : s.resolveDesired desired = .ok d) {f : FieldSpec} (hf : f ∈ s.fields) (hsend : f.alwaysSend = true)
    {v : FieldValue} (hv : d.get? f.name = some v) :
    (updatePayload changed accompanying).get? f.name = some v := by
  obtain ⟨d', r, hd', _, _, hu, _⟩ := update_cases h
  rw [hd] at hd'
  cases hd'
  rw [get?_updatePayload]
  cases hc : changed.get? f.name with
  | some w =>
    obtain ⟨hw, _⟩ := (hu.changed_iff f.name w).1 hc
    rw [hv] at hw
    cases hw
    rfl
  | none =>
    rw [Option.none_or]
    exact (hu.accompanying_iff f.name v).2 ⟨hv, hc, f, hf, rfl, hsend⟩

theorem compute_after_update (hreg : s.Regular) (hc : s.canonicalizer = none) {remote : FieldMap}
    {changed accompanying : FieldMap}
    (h : compute s desired (some remote) = .ok (single (.update changed accompanying))) :
    compute s desired (some (remote.overwrite (updatePayload changed accompanying))) =
      .ok (single .noop) := by
  obtain ⟨d, r, hd, hr, hstuck, hu, hno⟩ := update_cases h
  obtain ⟨_, m, hm, rfl⟩ := Schema.resolveDesired_eq_ok.1 hd
  obtain ⟨q, hq, rfl⟩ := Schema.resolveRemote_eq_ok.1 hr
  rw [Schema.canonicalize_eq_self hc] at hu hstuck hno hd
  rw [Schema.canonicalize_eq_self hc] at hu hstuck hno
  have hs := Schema.settled_of_desired hreg hm
  have hafter := Schema.resolveRemote_eq_ok.2 ⟨_, collected_update hu hs hq, Schema.canonicalize_eq_self hc _⟩
  refine compute_eq_noop hd hafter ?_ ?_
  · rintro f hf ⟨hmut, want, hw, hne⟩
    cases hp : (updatePayload changed accompanying).get? f.name with
    | some v =>
      have hv := get?_payload hu hp
      rw [hw] at hv
      cases hv
      exact hne (by simp [FieldSpec.held, hp])
    | none =>
      refine not_drifted_of_payload hu hf hp ⟨hmut, want, hw, ?_⟩
      simpa [FieldSpec.held, hp] using hne
  · intro f hf
    have hbefore := Schema.isStuck_eq_false hstuck hno f hf
    simp only [FieldSpec.isStuck, SortedMap.contains_eq, SortedMap.get?_overwrite] at hbefore ⊢
    cases hp : (updatePayload changed accompanying).get? f.name with
    | some v => simp
    | none => simpa using hbefore

/-! ## After any plan -/

/-- Carrying out a plan leaves nothing to do where the schema does not fold. -/
theorem compute_after (hreg : s.Regular) (hc : s.canonicalizer = none) {remote : Option FieldMap} {p : Plan}
    (h : compute s desired remote = .ok p) :
    ∃ after, p.reportedAfter remote = some after ∧ compute s desired (some after) = .ok (single .noop) := by
  obtain ⟨d, hd, ⟨rfl, rfl⟩ | ⟨reported, r, rfl, _, _, hp⟩⟩ := compute_eq_ok.1 h
  · exact ⟨d, rfl, compute_of_recreated hreg (Schema.stable_of_canonicalizer_eq_none hc) hd⟩
  subst hp
  rcases s.action_cases d r with ⟨ha, _⟩ | ⟨reason, ha, _⟩ | ⟨changed, accompanying, ha, _⟩
  · rw [ha] at h ⊢
    exact ⟨reported, rfl, h⟩
  · rw [ha]
    exact ⟨d, rfl, compute_of_recreated hreg (Schema.stable_of_canonicalizer_eq_none hc) hd⟩
  · rw [ha] at h ⊢
    exact ⟨_, rfl, compute_after_update hreg hc h⟩

/-- A plan to create or to replace carries the resolved declaration. -/
theorem resolveDesired_of_recreates {remote : Option FieldMap} {a : Action} {m : FieldMap}
    (h : compute s desired remote = .ok (single a)) (ha : a = .create m ∨ ∃ reason, a = .replace reason m) :
    s.resolveDesired desired = .ok m := by
  obtain ⟨d, hd, _⟩ := compute_eq_ok.1 h
  rw [hd]
  rcases compute_single_cases h hd with ⟨_, rfl⟩ | ⟨_, _, _, _, rfl | ⟨_, rfl⟩ | ⟨_, _, rfl⟩⟩
  · simpa using ha
  · simp at ha
  · simpa using ha
  · simp at ha

/-- **Carrying out a plan is a fixpoint of planning.** Over a schema without a canonicalizer, with the
library's normalizers and well-typed defaults, planning against the state that a plan leads to gives the
plan that does nothing. The schema of transit keys is such a schema; for mounts, which have a
canonicalizer, the same holds of the plans that create or replace. -/
theorem compute_converges :
    (∀ s : Schema, s.Regular → s.canonicalizer = none → ∀ desired remote p,
      compute s desired remote = .ok p → ∃ after, p.reportedAfter remote = some after ∧
        compute s desired (some after) = .ok (single .noop)) ∧
    (Vault.TransitKey.schema.Regular ∧ Vault.TransitKey.schema.canonicalizer = none) ∧
    ∀ desired remote p m, compute Vault.Mount.schema desired remote = .ok p →
      (p = single (.create m) ∨ ∃ reason, p = single (.replace reason m)) →
        p.reportedAfter remote = some m ∧
          compute Vault.Mount.schema desired (some m) = .ok (single .noop) := by
  refine ⟨fun s hreg hc desired remote p h => compute_after hreg hc h,
    ⟨Vault.TransitKey.schema_regular, rfl⟩, fun desired remote p m h hp => ?_⟩
  have hd : Vault.Mount.schema.resolveDesired desired = .ok m := by
    rcases hp with rfl | ⟨reason, rfl⟩
    · exact resolveDesired_of_recreates h (.inl rfl)
    · exact resolveDesired_of_recreates h (.inr ⟨reason, rfl⟩)
  refine ⟨?_, compute_of_recreated Vault.Mount.schema_regular Vault.Mount.schema_stable hd⟩
  rcases hp with rfl | ⟨reason, rfl⟩ <;> rfl

/-- A transit key that is to become deletable, and a mount of type `pki` that is to become one of type
`kv` and version 2. -/
theorem compute_converges_key_mount :
    (∃ after, (single (.update (.ofList [("deletion_allowed", .bool true)])
        (.ofList [("allow_plaintext_backup", .bool false), ("exportable", .bool false),
          ("min_decryption_version", .int 1), ("min_encryption_version", .int 0)]))).reportedAfter
          (some (.ofList [("backend", .string "/t"), ("type", .string "AES256-GCM96")])) = some after ∧
      compute Vault.TransitKey.schema
        (.ofList [("backend", .string "t/"), ("deletion_allowed", .bool true)]) (some after) =
          .ok (single .noop)) ∧
    compute Vault.Mount.schema
      (.ofList [("options", .map (.ofList [("version", "2")])), ("type", .string "KV")])
      (some (.ofList [("external_entropy_access", .bool false), ("local", .bool false),
        ("options", .map .empty), ("type", .string "kv-v2")])) = .ok (single .noop) :=
  ⟨compute_converges.1 Vault.TransitKey.schema compute_converges.2.1.1 compute_converges.2.1.2 _ _ _
      (by decide +kernel),
    (compute_converges.2.2 _ (some (.ofList [("type", .string "pki")])) _ _ (by decide +kernel)
      (.inr ⟨"type", rfl⟩)).2⟩

end Plan

end Converge
