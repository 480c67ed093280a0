import Converge.Vault.Mount.Schema
import Converge.Vault.TransitKey.Schema
import Converge.Proofs.Resolution

/-!
# The schemas of mounts and transit keys

Both schemas are regular. The canonicalizer of mounts, which folds the two spellings of a key-value
engine of version 2 into one, is known by what it puts under each name (`Mount.get?_foldVersionTwo`);
folding twice is folding once, and a settled map stays settled.
-/

namespace Converge

namespace Vault.TransitKey

theorem schema_regular : schema.Regular := by
  have hn : ∀ f ∈ fields, ∀ n, f.normalizer = some n → n ∈ Normalizer.library := by
    simp [fields, Normalizer.library]
  have hd : ∀ f ∈ fields, ∀ v, f.default = some v → (f.normalize v).type = f.type := by
    simp [fields, FieldSpec.normalize, FieldValue.type, Normalizer.caseFold]
  exact fun f hf => ⟨hn f hf, hd f hf⟩

end Vault.TransitKey

namespace Vault.Mount

theorem schema_regular : schema.Regular := by
  have hn : ∀ f ∈ fields, ∀ n, f.normalizer = some n → n ∈ Normalizer.library := by
    simp [fields, Normalizer.library]
  have hd : ∀ f ∈ fields, ∀ v, f.default = some v → (f.normalize v).type = f.type := by
    simp [fields, FieldSpec.normalize, FieldValue.type]
  exact fun f hf => ⟨hn f hf, hd f hf⟩

/-! ## The fold of version 2 -/

theorem foldVersionTwo_of_not {m : FieldMap} (h : isVersionTwo m = false) : foldVersionTwo m = m := by
  simp [foldVersionTwo, h]

def unversioned (m : FieldMap) : FieldValue :=
  .map (((m.map? "options").getD SortedMap.empty).erase "version")

/-- A mount of version 2 is of type `kv-v2`, its options, if it has any, name no version, and everything
else is as it was. -/
theorem get?_foldVersionTwo {m : FieldMap} (h : isVersionTwo m = true) (n : String) :
    (foldVersionTwo m).get? n =
      if n = "type" then some (.string "kv-v2")
      else if n = "options" then (m.get? "options").map fun _ => unversioned m
      else m.get? n := by
  unfold foldVersionTwo unversioned
  rw [if_pos h]
  by_cases ht : n = "type"
  · subst ht
    cases ho : m.get? "options" <;> simp [ho]
  · by_cases hopt : n = "options"
    · subst hopt
      cases ho : m.get? "options" <;> simp [ho]
    · have ht' : "type" ≠ n := Ne.symm ht
      have hopt' : "options" ≠ n := Ne.symm hopt
      cases ho : m.get? "options" <;> simp [ho, ht, ht', hopt, hopt']

theorem get?_foldVersionTwo_of_ne {m : FieldMap} {n : String} (ht : n ≠ "type") (ho : n ≠ "options") :
    (foldVersionTwo m).get? n = m.get? n := by
  cases h : isVersionTwo m with
  | false => rw [foldVersionTwo_of_not h]
  | true => rw [get?_foldVersionTwo h, if_neg ht, if_neg ho]

theorem isVersionTwo_foldVersionTwo {m : FieldMap} (h : isVersionTwo m = true) :
    isVersionTwo (foldVersionTwo m) = true := by
  have htype : (foldVersionTwo m).string? "type" = some "kv-v2" := by
    simp [FieldMap.string?, get?_foldVersionTwo h, FieldValue.string?]
  have hversion : (((foldVersionTwo m).map? "options").getD SortedMap.empty).get? "version" = none := by
    cases ho : m.get? "options" with
    | none => simp [FieldMap.map?, get?_foldVersionTwo h, ho]
    | some o => simp [FieldMap.map?, get?_foldVersionTwo h, ho, unversioned, FieldValue.map?]
  simp [isVersionTwo, htype, hversion]

/-- Folding twice is folding once. -/
theorem foldVersionTwo_foldVersionTwo (m : FieldMap) :
    foldVersionTwo (foldVersionTwo m) = foldVersionTwo m := by
  cases h : isVersionTwo m with
  | false => rw [foldVersionTwo_of_not h, foldVersionTwo_of_not h]
  | true =>
    have h2 := isVersionTwo_foldVersionTwo h
    refine SortedMap.ext_get? fun n => ?_
    rw [get?_foldVersionTwo h2]
    by_cases ht : n = "type"
    · simp [ht, get?_foldVersionTwo h]
    · by_cases hopt : n = "options"
      · subst hopt
        cases ho : m.get? "options" with
        | none => simp [get?_foldVersionTwo h, ho]
        | some o =>
          have hmap : (foldVersionTwo m).map? "options" =
              some (((m.map? "options").getD SortedMap.empty).erase "version") := by
            simp [FieldMap.map?, get?_foldVersionTwo h, ho, unversioned, FieldValue.map?]
          have herase : ∀ o : SortedMap String, (o.erase "version").erase "version" = o.erase "version" :=
            fun o => SortedMap.ext_get? fun k => by
              by_cases hk : "version" = k <;> simp [hk]
          simp [get?_foldVersionTwo h, ho, unversioned, hmap, herase]
      · simp [ht, hopt]

/-- A settled map stays settled if only its type and its options change, to ones in normal form. -/
theorem settled_of_spelling {m m' : FieldMap} (hm : schema.Settled m) {t : String}
    (htype : m'.get? "type" = some (.string t)) (hlower : Text.lowerCase t = t)
    (hoptions : ∀ v, m'.get? "options" = some v → ∃ o, v = .map o)
    (hrest : ∀ n, n ≠ "type" → n ≠ "options" → m'.get? n = m.get? n) : schema.Settled m' := by
  have htypes : ∀ f ∈ fields, f.name = "type" → f.normalizer = some Normalizer.caseFold ∧ f.type = .string := by
    simp [fields]
  have hmaps : ∀ f ∈ fields, f.name = "options" → f.normalizer = none ∧ f.type = .map := by
    simp [fields]
  constructor
  · intro f hf v hv
    by_cases ht : f.name = "type"
    · obtain ⟨hn, htyped⟩ := htypes f hf ht
      rw [ht, htype] at hv
      cases hv
      exact ⟨by simp [FieldSpec.overflowsOn, hn, Normalizer.caseFold],
        by simp [FieldSpec.normalize, hn, Normalizer.caseFold, hlower], by rw [htyped]; rfl⟩
    · by_cases ho : f.name = "options"
      · obtain ⟨hn, htyped⟩ := hmaps f hf ho
        obtain ⟨_, rfl⟩ := hoptions v (ho ▸ hv)
        exact ⟨by simp [FieldSpec.overflowsOn, hn], by simp [FieldSpec.normalize, hn], by rw [htyped]; rfl⟩
      · exact hm.values f hf v (hrest _ ht ho ▸ hv)
  · intro n hn
    have hdeclared : "type" ∈ schema.fields.map (·.name) ∧ "options" ∈ schema.fields.map (·.name) := by
      simp [schema, fields]
    have ht : n ≠ "type" := fun he => hn (he ▸ hdeclared.1)
    have ho : n ≠ "options" := fun he => hn (he ▸ hdeclared.2)
    rw [hrest n ht ho, hm.only n hn]

/-- The fold leaves a settled map settled. -/
theorem settled_foldVersionTwo {m : FieldMap} (hm : schema.Settled m) :
    schema.Settled (foldVersionTwo m) := by
  cases h : isVersionTwo m with
  | false => rwa [foldVersionTwo_of_not h]
  | true =>
    have hlower : Text.lowerCase "kv-v2" = "kv-v2" := by decide +kernel
    refine settled_of_spelling hm (by simp [get?_foldVersionTwo h]) hlower (fun v hv => ?_) fun n ht ho => ?_
    · rw [get?_foldVersionTwo h, if_neg (by decide), if_pos rfl] at hv
      obtain ⟨_, _, rfl⟩ := Option.map_eq_some_iff.1 hv
      exact ⟨_, rfl⟩
    · rw [get?_foldVersionTwo h, if_neg ht, if_neg ho]

end Vault.Mount

end Converge
