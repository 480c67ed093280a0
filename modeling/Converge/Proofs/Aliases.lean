import Converge.Proofs.MountDependence

/-!
# The two spellings of a key-value engine

The fold of mounts decides which field maps count as the same. The type of a mount is immutable, so a fold that
took two different engines for one would hide a change, and a fold that missed a spelling would have the mount
deleted. It identifies exactly the two spellings of version 2: `Mount.fold_eq_fold_iff` says for which maps the fold
gives the same. Main theorem: `Mount.foldVersionTwo_identifies`.
-/

namespace Converge.Vault.Mount

/-- The type of a mount, if it has one, is a string, and its options, if it has any, are a map. -/
structure Typed (m : FieldMap) : Prop where
  type : ∀ v, m.get? "type" = some v → ∃ t, v = .string t
  options : ∀ v, m.get? "options" = some v → ∃ o, v = .map o

/-- The options of a mount name this version. -/
def HasVersion (m : FieldMap) (version : String) : Prop :=
  ∃ o, m.get? "options" = some (.map o) ∧ o.get? "version" = some version

/-- A key-value engine of version 2: of type `kv` with version 2 in its options, or of type `kv-v2` with no other
version there. -/
def VersionTwo (m : FieldMap) : Prop :=
  (m.get? "type" = some (.string "kv") ∧ HasVersion m "2") ∨
    (m.get? "type" = some (.string "kv-v2") ∧ ∀ version, HasVersion m version → version = "2")

/-- The value without the entry for a version, where it is a map. -/
def withoutVersion : FieldValue → FieldValue
  | .map o => .map (o.erase "version")
  | v => v

/-- The mount without its type and without the version in its options. -/
def stripped (m : FieldMap) : FieldMap :=
  match m.get? "options" with
  | some v => (m.erase "type").insert "options" (withoutVersion v)
  | none => m.erase "type"

theorem hasVersion_iff {m : FieldMap} {version : String} :
    HasVersion m version ↔ (options m).get? "version" = some version := by
  unfold HasVersion options
  simp only [← FieldMap.map?_eq_some]
  cases m.map? "options" <;> simp

theorem versionTwo_iff {m : FieldMap} : VersionTwo m ↔ isVersionTwo m = true := by
  rw [isVersionTwo_iff, VersionTwo]
  simp only [FieldMap.string?_eq_some, hasVersion_iff]
  refine or_congr_right (and_congr_right fun _ => ?_)
  cases (options m).get? "version" <;> simp

theorem not_versionTwo_iff {m : FieldMap} : ¬ VersionTwo m ↔ isVersionTwo m = false := by
  rw [versionTwo_iff, Bool.not_eq_true]

/-- Nothing else is taken away. -/
theorem get?_stripped (m : FieldMap) (n : String) : (stripped m).get? n =
    if n = "type" then none
    else if n = "options" then (m.get? "options").map withoutVersion
    else m.get? n := by
  unfold stripped
  by_cases ht : n = "type"
  · subst ht
    cases m.get? "options" <;> simp
  · by_cases ho : n = "options"
    · subst ho
      cases ho : m.get? "options" <;> simp [ho]
    · have ht' : "type" ≠ n := Ne.symm ht
      have ho' : "options" ≠ n := Ne.symm ho
      cases m.get? "options" <;> simp [ht, ht', ho, ho']

section
variable {x y : FieldMap} (hx : Typed x)
include hx

/-- The fold of a mount of version 2 is known from what is left of it without its type and version. -/
theorem get?_fold_of_versionTwo (h : VersionTwo x) (n : String) :
    (foldVersionTwo x).get? n = if n = "type" then some (.string "kv-v2") else (stripped x).get? n := by
  rw [get?_foldVersionTwo (versionTwo_iff.1 h), get?_stripped]
  by_cases ht : n = "type"
  · simp [ht]
  · rw [if_neg ht, if_neg ht, if_neg ht]
    split
    next ho =>
      cases hv : x.get? "options" with
      | none => rfl
      | some v =>
        obtain ⟨o, rfl⟩ := hx.options v hv
        simp [unversioned, withoutVersion, FieldMap.map?, hv, FieldValue.map?]
    next => rfl

/-- The fold changes the type and the version only. -/
theorem stripped_fold : stripped (foldVersionTwo x) = stripped x := by
  by_cases h : VersionTwo x
  · refine SortedMap.ext_get? fun n => ?_
    rw [get?_stripped, get?_stripped]
    have hfold := get?_fold_of_versionTwo hx h
    simp only [get?_stripped] at hfold
    by_cases ht : n = "type"
    · simp [ht]
    · by_cases ho : n = "options"
      · subst ho
        rw [hfold]
        cases hv : x.get? "options" with
        | none => simp
        | some v =>
          obtain ⟨o, rfl⟩ := hx.options v hv
          have herase : (o.erase "version").erase "version" = o.erase "version" :=
            SortedMap.ext_get? fun k => by by_cases hk : "version" = k <;> simp [hk]
          simp [withoutVersion, herase]
      · simp [hfold, ht, ho]
  · rw [foldVersionTwo_of_not (not_versionTwo_iff.1 h)]

/-- **Which maps the fold identifies**: equal ones, and two mounts of version 2 that are equal but for their types
and versions. -/
theorem fold_eq_fold_iff (hy : Typed y) : foldVersionTwo x = foldVersionTwo y ↔
    x = y ∨ VersionTwo x ∧ VersionTwo y ∧ stripped x = stripped y := by
  constructor
  · intro h
    -- a folded mount of version 2 is of version 2 still
    have hfold : ∀ {m}, VersionTwo m → VersionTwo (foldVersionTwo m) := fun hm =>
      versionTwo_iff.2 (isVersionTwo_foldVersionTwo (versionTwo_iff.1 hm))
    by_cases hx2 : VersionTwo x
    · by_cases hy2 : VersionTwo y
      · exact .inr ⟨hx2, hy2, by rw [← stripped_fold hx, h, stripped_fold hy]⟩
      · have := h ▸ hfold hx2
        rw [foldVersionTwo_of_not (not_versionTwo_iff.1 hy2)] at this
        exact absurd this hy2
    · rw [foldVersionTwo_of_not (not_versionTwo_iff.1 hx2)] at h
      by_cases hy2 : VersionTwo y
      · exact absurd (h ▸ hfold hy2) hx2
      · rw [foldVersionTwo_of_not (not_versionTwo_iff.1 hy2)] at h
        exact .inl h
  · rintro (rfl | ⟨hx2, hy2, hstripped⟩)
    · rfl
    · refine SortedMap.ext_get? fun n => ?_
      rw [get?_fold_of_versionTwo hx hx2, get?_fold_of_versionTwo hy hy2, hstripped]

end

/-- **The fold identifies exactly the spellings of version 2.** It is idempotent; it changes nothing but the type and
the version in the options, keeps the options where there are any, and changes nothing at all in a mount that is not
of version 2. Two mounts fold to the same exactly if they are equal, or both are of version 2 and equal but for type
and version; so an engine of type `kv` without version 2 is never taken for one of type `kv-v2`. -/
theorem foldVersionTwo_identifies (x y : FieldMap) (hx : Typed x) (hy : Typed y) :
    foldVersionTwo (foldVersionTwo x) = foldVersionTwo x ∧
    (∀ n, n ≠ "type" → n ≠ "options" → (foldVersionTwo x).get? n = x.get? n) ∧
    (∀ o, x.get? "options" = some (.map o) → ∃ o', (foldVersionTwo x).get? "options" = some (.map o') ∧
      ∀ k, k ≠ "version" → o'.get? k = o.get? k) ∧
    (x.get? "options" = none → (foldVersionTwo x).get? "options" = none) ∧
    (¬ VersionTwo x → foldVersionTwo x = x) ∧
    (foldVersionTwo x = foldVersionTwo y ↔ x = y ∨ VersionTwo x ∧ VersionTwo y ∧ stripped x = stripped y) ∧
    (x.get? "type" = some (.string "kv") → ¬ HasVersion x "2" → y.get? "type" = some (.string "kv-v2") →
      foldVersionTwo x ≠ foldVersionTwo y) := by
  have hkept : ¬ VersionTwo x → foldVersionTwo x = x := fun h => foldVersionTwo_of_not (not_versionTwo_iff.1 h)
  refine ⟨foldVersionTwo_foldVersionTwo x, fun n ht ho => get?_foldVersionTwo_of_ne ht ho, fun o ho => ?_,
    fun ho => ?_, hkept, fold_eq_fold_iff hx hy, fun hkv hversion hkv2 h => ?_⟩
  · by_cases h : VersionTwo x
    · refine ⟨o.erase "version", ?_, fun k hk => by simp [Ne.symm hk]⟩
      simp [get?_fold_of_versionTwo hx h, get?_stripped, ho, withoutVersion]
    · exact ⟨o, by rw [hkept h, ho], fun _ _ => rfl⟩
  · by_cases h : VersionTwo x
    · simp [get?_fold_of_versionTwo hx h, get?_stripped, ho]
    · rw [hkept h, ho]
  · rcases (fold_eq_fold_iff hx hy).1 h with rfl | ⟨⟨_, hversion'⟩ | ⟨htype, _⟩, _⟩
    · simp [hkv] at hkv2
    · exact hversion hversion'
    · simp [hkv] at htype

/-- The two spellings of one mount fold to the same. -/
theorem foldVersionTwo_identifies_spellings :
    let x : FieldMap := .ofList [("path", .string "team"), ("type", .string "kv"),
      ("options", .map (.ofList [("max_versions", "5"), ("version", "2")]))]
    let y : FieldMap := .ofList [("path", .string "team"), ("type", .string "kv-v2"),
      ("options", .map (.ofList [("max_versions", "5")]))]
    x ≠ y ∧ Typed x ∧ Typed y ∧ foldVersionTwo x = foldVersionTwo y := by
  intro x y
  have htyped : ∀ {m : FieldMap}, (m.string? "type").isSome = true → (m.map? "options").isSome = true → Typed m := by
    intro m ht ho
    obtain ⟨t, ht⟩ := Option.isSome_iff_exists.1 ht
    obtain ⟨o, ho⟩ := Option.isSome_iff_exists.1 ho
    rw [FieldMap.string?_eq_some] at ht
    rw [FieldMap.map?_eq_some] at ho
    exact ⟨fun v hv => ⟨t, Option.some.inj (hv.symm.trans ht)⟩, fun v hv => ⟨o, Option.some.inj (hv.symm.trans ho)⟩⟩
  have hx : Typed x := htyped (by decide +kernel) (by decide +kernel)
  have hy : Typed y := htyped (by decide +kernel) (by decide +kernel)
  have hversions : VersionTwo x ∧ VersionTwo y :=
    ⟨versionTwo_iff.2 (by decide +kernel), versionTwo_iff.2 (by decide +kernel)⟩
  obtain ⟨_, _, _, _, _, hiff, _⟩ := foldVersionTwo_identifies x y hx hy
  exact ⟨by decide +kernel, hx, hy, hiff.2 (.inr ⟨hversions.1, hversions.2, by decide +kernel⟩)⟩

end Converge.Vault.Mount
