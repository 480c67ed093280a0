import Converge.Proofs.Computed
import Converge.Proofs.Declarations
import Converge.Proofs.MountDependence
import Converge.Vault.Kinds

/-!
# Resolved states resolve to themselves

A resolution checks what is declared before it fills in the defaults and folds the spellings, so it never checks what
it gives. What it gives is canonical all the same: over a *sound* schema, whose defaults have their types and pass
their validators and whose canonicalizer leaves attributes as good as they were, the maps that declarations resolve to
are exactly those that resolve to themselves (`Schema.resolveDesired_eq_self_iff`). Both schemas of Vault are sound.
Main theorem: `Vault.resolved_canonical`.
-/

namespace Converge

/-! ## One attribute -/

namespace FieldSpec

/-- A value that is its own normal form, has the type of the attribute and passes its validator. -/
structure Canonical (f : FieldSpec) (v : FieldValue) : Prop extends f.Settled v where
  passes : f.complaint v = none

/-- The rules of an attribute are the library's, its default has its type and passes its validator, and there is none
if the value is the server's to set. -/
structure Sound (f : FieldSpec) : Prop extends f.Regular where
  passes : ∀ v, f.defaultValue = some v → f.complaint v = none
  computed : f.isComputed = true → f.default = none

variable {f : FieldSpec} {desired : FieldMap} {v : FieldValue}

theorem Canonical.desiredEntry (hv : f.Canonical v) (hd : desired.get? f.name = some v) :
    f.desiredEntry desired = .ok (some v) := by
  have hcheck : f.checkType v = .ok v := checkType_eq_ok.2 ⟨hv.computes, hv.normal, hv.typed⟩
  exact desiredEntry_eq_ok.2 (.inl ⟨v, v, hd, checkDesired_eq_ok.2 ⟨hcheck, hv.passes⟩, rfl⟩)

theorem Sound.complaint_of_desiredEntry (hf : f.Sound) (h : f.desiredEntry desired = .ok (some v)) :
    f.complaint v = none := by
  rcases desiredEntry_eq_ok.1 h with ⟨_, _, _, hcheck, he⟩ | ⟨_, _, hdefault⟩
  · cases he
    exact (checkDesired_eq_ok.1 hcheck).2
  · exact hf.passes v hdefault.symm

end FieldSpec

/-! ## The whole map -/

namespace Schema

/-- Every value of the map passes the validator of its attribute. -/
def Passes (s : Schema) (m : FieldMap) : Prop := ∀ f ∈ s.fields, ∀ v, m.get? f.name = some v → f.complaint v = none

/-- A map that holds canonical values of attributes that can be configured, all defaults filled in, in its one
spelling. -/
structure Canonical (s : Schema) (m : FieldMap) : Prop where
  values : ∀ n v, m.get? n = some v → ∃ f ∈ s.fields, f.name = n ∧ f.mutability ≠ .computed ∧ f.Canonical v
  filled : ∀ f ∈ s.fields, f.default.isSome = true → (m.get? f.name).isSome = true
  spelled : s.canonicalize m = m

/-- The attributes are sound, and the canonicalizer adds none, takes none away, and leaves settled those that are and
those that pass their validators so. -/
structure Sound (s : Schema) : Prop where
  fields : ∀ f ∈ s.fields, f.Sound
  stable : s.Stable
  contains : ∀ m n, (s.canonicalize m).contains n = m.contains n
  passes : ∀ m, s.Passes m → s.Passes (s.canonicalize m)

variable {s : Schema} {desired remote r m : FieldMap}

theorem Sound.regular (hs : s.Sound) : s.Regular := fun f hf => (hs.fields f hf).toRegular

theorem Sound.keepsComputed (hs : s.Sound) : s.KeepsComputed := fun f _ _ m => hs.contains m f.name

section
variable (hs : s.Sound) (h : s.resolveDesired desired = .ok r)
include hs h

theorem passes_of_resolveDesired : s.Passes r := by
  obtain ⟨_, m, hm, rfl⟩ := resolveDesired_eq_ok.1 h
  exact hs.passes m fun f hf _ hv => (hs.fields f hf).complaint_of_desiredEntry (hv ▸ hm.entries f hf)

theorem isSome_get?_of_default {f : FieldSpec} (hf : f ∈ s.fields) (hdefault : f.default.isSome = true) :
    (r.get? f.name).isSome = true := by
  obtain ⟨_, m, hm, rfl⟩ := resolveDesired_eq_ok.1 h
  rw [← SortedMap.contains_eq, hs.contains, SortedMap.contains_eq]
  exact (hm.isSome_get?_iff hf).2 (.inr hdefault)

theorem get?_eq_none_of_isComputed {f : FieldSpec} (hf : f ∈ s.fields) (hc : f.isComputed = true) :
    r.get? f.name = none := by
  have hcontains := contains_computed hs.keepsComputed hf hc h
  rw [(hs.fields f hf).computed hc, SortedMap.contains_eq] at hcontains
  simpa using hcontains

/-- **What a declaration resolves to is canonical.** -/
theorem canonical_of_resolveDesired : s.Canonical r := by
  obtain ⟨hsettled, hspelled⟩ := settled_of_resolveDesired hs.regular hs.stable h
  refine ⟨fun n v hv => ?_, fun f hf => isSome_get?_of_default hs h hf, hspelled⟩
  have hdeclared : n ∈ s.fields.map (·.name) := by
    by_contra hn
    rw [hsettled.only n hn] at hv
    cases hv
  obtain ⟨f, hf, rfl⟩ := List.mem_map.1 hdeclared
  refine ⟨f, hf, rfl, fun hc => ?_, hsettled.values f hf v hv, passes_of_resolveDesired hs h f hf v hv⟩
  rw [get?_eq_none_of_isComputed hs h hf (decide_eq_true hc)] at hv
  cases hv

end

theorem Canonical.only (hm : s.Canonical m) (n : String) (hn : n ∉ s.fields.map (·.name)) : m.get? n = none := by
  cases hv : m.get? n with
  | none => rfl
  | some v =>
    obtain ⟨f, hf, rfl, _⟩ := hm.values n v hv
    exact absurd (List.mem_map_of_mem hf) hn

theorem Canonical.value (hm : s.Canonical m) {f : FieldSpec} (hf : f ∈ s.fields) {v : FieldValue}
    (hv : m.get? f.name = some v) : f.Canonical v := by
  obtain ⟨g, hg, hname, _, hcanonical⟩ := hm.values f.name v hv
  rwa [← eq_of_name_eq hg hf hname]

theorem Canonical.resolveDesired (hm : s.Canonical m) : s.resolveDesired m = .ok m := by
  have hnames : ∀ n, (m.get? n).isSome = true → s.Configurable n := by
    intro n hn
    obtain ⟨v, hv⟩ := Option.isSome_iff_exists.1 hn
    obtain ⟨f, hf, hname, hc, _⟩ := hm.values n v hv
    exact ⟨f, hf, hname, hc⟩
  refine resolveDesired_eq_ok.2 ⟨names_iff.2 hnames, m, ⟨fun f hf => ?_, hm.only⟩, hm.spelled⟩
  cases hv : m.get? f.name with
  | some v => exact (hm.value hf hv).desiredEntry hv
  | none =>
    have hdefault : f.default = none := by
      cases hd : f.default with
      | none => rfl
      | some _ =>
        have := hm.filled f hf (by rw [hd, Option.isSome_some])
        rw [hv] at this
        cases this
    refine FieldSpec.desiredEntry_eq_ok.2 (.inr ⟨hv, ?_, ?_⟩)
    · simp [FieldSpec.defaultOverflows, hdefault]
    · simp [FieldSpec.defaultValue, hdefault]

theorem Canonical.resolveRemote (hm : s.Canonical m) : s.resolveRemote m = .ok m := by
  have hsettled : s.Settled m := ⟨fun f hf v hv => (hm.value hf hv).toSettled, hm.only⟩
  rw [resolveRemote_of_settled hsettled, hm.spelled]

/-- **The canonical maps are those that resolve to themselves.** -/
theorem resolveDesired_eq_self_iff (hs : s.Sound) : s.resolveDesired m = .ok m ↔ s.Canonical m :=
  ⟨canonical_of_resolveDesired hs, Canonical.resolveDesired⟩

/-- **What a report resolves to resolves to itself.** -/
theorem resolveRemote_of_resolveRemote (hs : s.Regular) (hstable : s.Stable) (h : s.resolveRemote remote = .ok r) :
    s.resolveRemote r = .ok r := by
  obtain ⟨hsettled, hspelled⟩ := settled_of_resolveRemote hs hstable h
  rw [resolveRemote_of_settled hsettled, hspelled]

end Schema

/-! ## The schemas of Vault -/

namespace Vault

theorem TransitKey.schema_sound : TransitKey.schema.Sound := by
  have hpasses : ∀ f ∈ fields, ∀ v, f.defaultValue = some v → f.complaint v = none := by
    simp [fields, FieldSpec.defaultValue, FieldSpec.complaint, FieldSpec.normalize, Validator.atLeast,
      Validator.nonNegative]
  have hcomputed : ∀ f ∈ fields, f.isComputed = true → f.default = none := by
    simp [fields, FieldSpec.isComputed]
  have hcanonicalize := Schema.canonicalize_eq_self (s := schema) rfl
  refine ⟨fun f hf => ⟨schema_regular f hf, hpasses f hf, hcomputed f hf⟩,
    Schema.stable_of_canonicalizer_eq_none rfl, fun m n => ?_, fun m hm => ?_⟩
  · rw [hcanonicalize]
  · rwa [hcanonicalize]

namespace Mount

/-- The type that the fold puts in is not empty, and the options have no validator. -/
theorem passes_foldVersionTwo {m : FieldMap} (hm : schema.Passes m) : schema.Passes (foldVersionTwo m) := by
  have htype : ∀ f ∈ fields, f.name = "type" → f.complaint (.string "kv-v2") = none := by
    simp [fields, FieldSpec.complaint, Validator.nonEmpty]
  have hoptions : ∀ f ∈ fields, f.name = "options" → f.validator = none := by
    simp [fields]
  cases h : isVersionTwo m with
  | false => rwa [foldVersionTwo_of_not h]
  | true =>
    intro f hf v hv
    rw [get?_foldVersionTwo h] at hv
    split at hv
    next hname =>
      cases hv
      exact htype f hf hname
    next =>
      split at hv
      next hname => rw [FieldSpec.complaint, hoptions f hf hname, Option.bind_none]
      next => exact hm f hf v hv

theorem schema_sound : schema.Sound := by
  have hpasses : ∀ f ∈ fields, ∀ v, f.defaultValue = some v → f.complaint v = none := by
    simp [fields, FieldSpec.defaultValue, FieldSpec.complaint]
  have hcomputed : ∀ f ∈ fields, f.isComputed = true → f.default = none := by
    simp [fields, FieldSpec.isComputed]
  exact ⟨fun f hf => ⟨schema_regular f hf, hpasses f hf, hcomputed f hf⟩, schema_stable, contains_foldVersionTwo,
    fun _ => passes_foldVersionTwo⟩

end Mount

theorem sound_of_mem {s : Schema} (hs : s ∈ schemas) : s.Sound := by
  rcases List.mem_cons.1 hs with rfl | hs
  · exact Mount.schema_sound
  · rw [List.mem_singleton.1 hs]
    exact TransitKey.schema_sound

/-- **Resolved states are canonical.** What a declaration of a mount or a transit key resolves to holds values of
attributes that can be configured, each of its type, accepted by its validator and in normal form, the defaults and the
folded ones included; it resolves to itself both as a declaration and as a report. What a report resolves to resolves
to itself as a report. -/
theorem resolved_canonical (s : Schema) (hs : s ∈ schemas) :
    (∀ desired r, s.resolveDesired desired = .ok r →
      s.Canonical r ∧ s.resolveDesired r = .ok r ∧ s.resolveRemote r = .ok r) ∧
    ∀ remote r, s.resolveRemote remote = .ok r → s.resolveRemote r = .ok r := by
  have hsound := sound_of_mem hs
  constructor
  · intro desired r h
    have hr := Schema.canonical_of_resolveDesired hsound h
    exact ⟨hr, (Schema.resolveDesired_eq_self_iff hsound).2 hr, hr.resolveRemote⟩
  · intro remote r h
    exact Schema.resolveRemote_of_resolveRemote hsound.regular hsound.stable h

/-- A key-value engine of version 2 in its long spelling, and a key that is reported in capitals. -/
theorem resolved_canonical_spellings :
    let desired : FieldMap := .ofList [("path", .string "/team/"), ("type", .string "KV"),
      ("max_lease_ttl", .string "1h 30m"), ("options", .map (.ofList [("max_versions", "5"), ("version", "2")]))]
    let r : FieldMap := .ofList [("path", .string "team"), ("type", .string "kv-v2"), ("max_lease_ttl", .int 5400),
      ("options", .map (.ofList [("max_versions", "5")])), ("external_entropy_access", .bool false),
      ("local", .bool false)]
    let remote : FieldMap := .ofList [("backend", .string "transit/"), ("type", .string "AES256-GCM96"),
      ("auto_rotate_period", .string "24h"), ("imported", .bool true)]
    let r' : FieldMap := .ofList [("backend", .string "transit"), ("type", .string "aes256-gcm96"),
      ("auto_rotate_period", .int 86400)]
    Mount.schema ∈ schemas ∧ Mount.schema.resolveDesired desired = .ok r ∧
      (Mount.schema.resolveDesired r = .ok r ∧ Mount.schema.resolveRemote r = .ok r) ∧
      TransitKey.schema.resolveRemote remote = .ok r' ∧ TransitKey.schema.resolveRemote r' = .ok r' := by
  intro desired r remote r'
  have hmount : Mount.schema ∈ schemas := List.mem_cons_self
  have hkey : TransitKey.schema ∈ schemas := List.mem_cons_of_mem _ List.mem_cons_self
  have hr : Mount.schema.resolveDesired desired = .ok r := by decide +kernel
  have hr' : TransitKey.schema.resolveRemote remote = .ok r' := by decide +kernel
  exact ⟨hmount, hr, ((resolved_canonical _ hmount).1 desired r hr).2, hr', (resolved_canonical _ hkey).2 remote r' hr'⟩

end Vault

end Converge
