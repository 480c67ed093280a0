import Converge.Transport.Memory
import Converge.Proofs.Mounts
import Converge.Proofs.Reconciliation

/-!
# Computed attributes

Which of the attributes that the server sets are sent to it. A declaration cannot configure a computed attribute
and the comparison passes over it, so it never counts as changed. But a default is filled in for it as for any
other attribute (`Schema.contains_computed`): what is created holds a computed attribute exactly if that has a
default, and what goes along with an update holds it if it is also one that is always sent. What a run sends is
what its plan says (`Reconciler.Ran.sends`). Main theorem: `Reconciler.reconcile_computed`.
-/

namespace Converge

variable {σ ε : Type}

/-! ## Resolved declarations -/

namespace Schema

variable {s : Schema}

/-- The canonicalizer neither adds a computed attribute nor takes one away. -/
def KeepsComputed (s : Schema) : Prop :=
  ∀ f ∈ s.fields, f.isComputed = true → ∀ m, (s.canonicalize m).contains f.name = m.contains f.name

theorem keepsComputed_of_canonicalizer_eq_none (hs : s.canonicalizer = none) : s.KeepsComputed := by
  intro f _ _ m
  rw [canonicalize_eq_self hs]

/-- **A computed attribute is declared exactly if it has a default.** -/
theorem contains_computed (hs : s.KeepsComputed) {f : FieldSpec} (hf : f ∈ s.fields) (hc : f.isComputed = true)
    {desired d : FieldMap} (hd : s.resolveDesired desired = .ok d) : d.contains f.name = f.default.isSome := by
  obtain ⟨hkeys, m, hm, rfl⟩ := resolveDesired_eq_ok.1 hd
  have hnone := get?_eq_none_of_computed hkeys hf hc
  rw [hs f hf hc, SortedMap.contains_eq, Bool.eq_iff_iff, hm.isSome_get?_iff hf, hnone]
  simp

end Schema

theorem Vault.Mount.schema_keepsComputed : Vault.Mount.schema.KeepsComputed := by
  intro f hf hc m
  have htype : ∀ f ∈ fields, f.isComputed = true → f.name ≠ "type" := by decide +kernel
  exact isSome_foldVersionTwo m (htype f hf hc)

/-! ## Plans -/

namespace Plan

variable {s : Schema} (hs : s.KeepsComputed) {f : FieldSpec} (hf : f ∈ s.fields) (hc : f.isComputed = true)
  {desired : FieldMap} {remote : Option FieldMap}
include hs hf hc

theorem contains_recreated {a : Action} {m : FieldMap} (h : compute s desired remote = .ok (single a))
    (ha : a = .create m ∨ ∃ reason, a = .replace reason m) : m.contains f.name = f.default.isSome :=
  Schema.contains_computed hs hf hc (resolveDesired_of_recreates h ha)

theorem contains_updated {changed accompanying : FieldMap}
    (h : compute s desired remote = .ok (single (.update changed accompanying))) :
    changed.contains f.name = false ∧ accompanying.contains f.name = (f.default.isSome && f.alwaysSend) := by
  obtain ⟨_, _, ⟨_, hp⟩ | ⟨before, _, rfl, _⟩⟩ := compute_eq_ok.1 h
  · cases hp
  obtain ⟨d, r, hd, _, _, hu, _⟩ := update_cases h
  have hchanged : changed.get? f.name = none := by
    apply Option.eq_none_iff_forall_ne_some.2
    intro v hv
    obtain ⟨_, g, hg, hname, hdrifted⟩ := (hu.changed_iff f.name v).1 hv
    rw [Schema.eq_of_name_eq hg hf hname] at hdrifted
    have hmutability : f.mutability = .computed := by simpa [FieldSpec.isComputed] using hc
    exact hdrifted.1 hmutability
  constructor
  · simp [hchanged]
  · rw [← Schema.contains_computed hs hf hc hd, Bool.eq_iff_iff, Bool.and_eq_true]
    simp only [SortedMap.contains_eq, Option.isSome_iff_exists]
    constructor
    · rintro ⟨v, hv⟩
      obtain ⟨hdeclared, _, g, hg, hname, halways⟩ := (hu.accompanying_iff f.name v).1 hv
      rw [Schema.eq_of_name_eq hg hf hname] at halways
      exact ⟨⟨v, hdeclared⟩, halways⟩
    · rintro ⟨⟨v, hv⟩, halways⟩
      exact ⟨v, (hu.accompanying_iff f.name v).2 ⟨hv, hchanged, f, hf, rfl, halways⟩⟩

end Plan

/-! ## Runs -/

/-- The call sends what the action holds. -/
inductive Action.Sends : Action → Call → Prop
  | created {desired} : Sends (.create desired) (.create desired)
  | replaced {reason desired} : Sends (.replace reason desired) (.create desired)
  | updated {changed accompanying id} :
    Sends (.update changed accompanying) (.write id (updatePayload changed accompanying))

/-- The call sends attributes. -/
def Call.Sends : Call → Prop
  | .write _ _ | .create _ => True
  | .read _ | .delete _ => False

namespace Reconciler

variable {r : Reconciler} {t : Transport σ ε} {id : Option String}

theorem Changing.sends {a : Action} {changes : History ε} {result : Except (ReconcileError ε) Outcome}
    (h : r.Changing t id a changes result) : ∀ x ∈ changes, x.call.Sends → a.Sends x.call := by
  intro x hx hsends
  cases h with
  | noop | updateUnknown | replaceUnknown => cases hx
  | create =>
    rw [Call.eq_of_mem_answered hx]
    exact .created
  | update =>
    rw [Call.eq_of_mem_answered hx]
    exact .updated
  | keep =>
    rw [Call.eq_of_mem_answered hx] at hsends
    cases hsends
  | replace =>
    rcases List.mem_append.1 hx with hx | hx
    · rw [Call.eq_of_mem_answered hx] at hsends
      cases hsends
    · rw [Call.eq_of_mem_answered hx]
      exact .replaced

/-- Whatever a run sends, it sends because a plan for the declaration says so. -/
theorem Ran.sends {desired : FieldMap} {found : Except (ReconcileError ε) (Option FieldMap)} {history : History ε}
    {result : Except (ReconcileError ε) Outcome} (h : r.Ran t id desired found history result) :
    ∀ x ∈ history, x.call.Sends →
      ∃ remote a, Plan.compute r.schema desired remote = .ok (.single a) ∧ a.Sends x.call := by
  have hreads : ∀ {reads : History ε} {found}, r.Reading t id reads found → ∀ x ∈ reads, ¬ x.call.Sends := by
    rintro _ _ (_ | _) x hx hsends
    · cases hx
    · rw [Call.eq_of_mem_answered hx] at hsends
      cases hsends
  intro x hx hsends
  cases h with
  | invalid => cases hx
  | unread _ reading | unplanned _ reading => exact absurd hsends (hreads reading x hx)
  | applied _ reading plan changing =>
    rcases List.mem_append.1 hx with hx | hx
    · exact absurd hsends (hreads reading x hx)
    · exact ⟨_, _, plan, changing.sends x hx hsends⟩

variable [ToString ε]

/-- **What is sent of a computed attribute.** It is never among what an update changes. A plan to create or to
replace holds it exactly if it has a default, and what goes along with an update holds it exactly if it has a
default and is always sent; and so does what the calls of every run send. So none is ever sent over a schema in
which no computed attribute has a default. -/
theorem reconcile_computed {s : Schema} (hs : s.KeepsComputed) {f : FieldSpec} (hf : f ∈ s.fields)
    (hc : f.isComputed = true) :
    (∀ desired remote p, Plan.compute s desired remote = .ok p → ∃ a, p.actions = [a] ∧
      (∀ m, (a = .create m ∨ ∃ reason, a = .replace reason m) → m.contains f.name = f.default.isSome) ∧
      ∀ changed accompanying, a = .update changed accompanying → changed.contains f.name = false ∧
        accompanying.contains f.name = (f.default.isSome && f.alwaysSend)) ∧
    ∀ (t : Transport σ ε) retry id desired w,
      ∃ history, Course t w history ((⟨s, retry⟩ : Reconciler).reconcile t id desired w).2 ∧
        ∀ x ∈ history, (∀ m, x.call = .create m → m.contains f.name = f.default.isSome) ∧
          ∀ i payload, x.call = .write i payload → payload.contains f.name = (f.default.isSome && f.alwaysSend) := by
  constructor
  · intro desired remote p h
    obtain ⟨a, rfl⟩ := Plan.exists_single h
    refine ⟨a, rfl, fun m ha => Plan.contains_recreated hs hf hc h ha, ?_⟩
    rintro changed accompanying rfl
    exact Plan.contains_updated hs hf hc h
  · intro t retry id desired w
    obtain ⟨history, result, w', hmakes, hran⟩ := reconcile_ran (r := ⟨s, retry⟩) (t := t) id desired w
    rw [hmakes.run]
    refine ⟨history, hmakes.course, ?_⟩
    rintro ⟨c, answer⟩ hx
    constructor
    · rintro m rfl
      obtain ⟨remote, a, hplan, hsends⟩ := hran.sends _ hx trivial
      cases hsends with
      | created => exact Plan.contains_recreated hs hf hc hplan (.inl rfl)
      | replaced => exact Plan.contains_recreated hs hf hc hplan (.inr ⟨_, rfl⟩)
    · rintro i payload rfl
      obtain ⟨remote, a, hplan, hsends⟩ := hran.sends _ hx trivial
      cases hsends with
      | updated =>
        obtain ⟨hchanged, haccompanying⟩ := Plan.contains_updated hs hf hc hplan
        rw [SortedMap.contains_eq, Option.isSome_eq_false_iff, Option.isNone_iff_eq_none] at hchanged
        rw [← haccompanying]
        simp [get?_updatePayload, hchanged]

/-- The accessor of a mount and the version of a key are not sent when they are created. -/
theorem reconcile_computed_accessor :
    (∃ m, Plan.compute Vault.Mount.schema (.ofList [("path", .string "team"), ("type", .string "kv")]) none =
        .ok (.single (.create m)) ∧ m.contains "accessor" = false) ∧
    ∃ m, Plan.compute Vault.TransitKey.schema (.ofList [("backend", .string "transit"), ("name", .string "app")])
        none = .ok (.single (.create m)) ∧ m.contains "latest_version" = false := by
  constructor
  · obtain ⟨f, hf, hname, hc, hdefault⟩ :
        ∃ f ∈ Vault.Mount.fields, f.name = "accessor" ∧ f.isComputed = true ∧ f.default.isSome = false := by
      decide +kernel
    have hplan : Plan.compute Vault.Mount.schema (.ofList [("path", .string "team"), ("type", .string "kv")]) none =
        .ok (.single (.create (.ofList [("external_entropy_access", .bool false), ("local", .bool false),
          ("options", .map .empty), ("path", .string "team"), ("type", .string "kv")]))) := by
      decide +kernel
    obtain ⟨a, ha, hcreated, _⟩ :=
      (reconcile_computed (σ := Unit) (ε := MemoryError) Vault.Mount.schema_keepsComputed hf hc).1 _ _ _ hplan
    cases ha
    refine ⟨_, hplan, ?_⟩
    rw [← hname, hcreated _ (.inl rfl), hdefault]
  · obtain ⟨f, hf, hname, hc, hdefault⟩ : ∃ f ∈ Vault.TransitKey.fields, f.name = "latest_version" ∧
        f.isComputed = true ∧ f.default.isSome = false := by
      decide +kernel
    have hplan : Plan.compute Vault.TransitKey.schema
        (.ofList [("backend", .string "transit"), ("name", .string "app")]) none =
          .ok (.single (.create (.ofList [("backend", .string "transit"), ("name", .string "app"),
            ("type", .string "aes256-gcm96"), ("convergent_encryption", .bool false), ("derived", .bool false),
            ("deletion_allowed", .bool false), ("exportable", .bool false), ("allow_plaintext_backup", .bool false),
            ("min_decryption_version", .int 1), ("min_encryption_version", .int 0)]))) := by
      decide +kernel
    obtain ⟨a, ha, hcreated, _⟩ :=
      (reconcile_computed (σ := Unit) (ε := MemoryError)
        (Schema.keepsComputed_of_canonicalizer_eq_none rfl) hf hc).1 _ _ _ hplan
    cases ha
    refine ⟨_, hplan, ?_⟩
    rw [← hname, hcreated _ (.inl rfl), hdefault]

/-- Notes with a revision that the server counts, for which the schema has a default. -/
def revisedNotes : Schema where
  kind := "note"
  fields := [{ name := "title", type := .string },
    { name := "revision", type := .int, mutability := .computed, default := some (.int 1), alwaysSend := true }]
  names_nodup := by decide +kernel
  latch_bool := by simp

/-- A computed attribute with a default is sent when a note is created, and over the revision that the server
reports when its title changes. -/
theorem reconcile_computed_revision :
    (∃ f ∈ revisedNotes.fields, f.name = "revision" ∧ f.isComputed = true) ∧
    Journal.calls (reconcile ⟨revisedNotes, .once⟩ MemoryRemote.transport none (.ofList [("title", .string "a")])
      ⟨.empty "title", []⟩).2.journal = [.create (.ofList [("revision", .int 1), ("title", .string "a")])] ∧
    Plan.compute revisedNotes (.ofList [("title", .string "a")]) none =
      .ok (.single (.create (.ofList [("revision", .int 1), ("title", .string "a")]))) ∧
    Plan.compute revisedNotes (.ofList [("title", .string "b")])
        (some (.ofList [("revision", .int 7), ("title", .string "a")])) =
      .ok (.single (.update (.ofList [("title", .string "b")]) (.ofList [("revision", .int 1)]))) := by
  decide +kernel

end Reconciler

end Converge
