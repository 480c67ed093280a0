import Converge.Proofs.Convergence
import Converge.Proofs.Dependence
import Converge.Proofs.Mounts

/-!
# What a plan for a mount depends on

Over a schema that does not fold, a plan depends on what is managed and on nothing else. The fold of mounts looks
at the type and the options together, and on each side by itself: where the declaration leaves the type open, the
fold takes the version out of the reported options and leaves it in the declared ones. A plan tells which
attributes have drifted (`Schema.action_eq_iff`), of all attributes but the options a comparison finds out the same
(`Vault.Mount.drift?_eq_of_managed`), and what the fold makes of the options is known from the reported map
(`Vault.Mount.foldedOptions_of_collected`). Main theorem: `Vault.Mount.compute_alike`.
-/

namespace Converge

/-! ## Actions and drift -/

namespace FieldSpec

variable {f : FieldSpec} {d r r' : FieldMap}

theorem drifted_congr (h : f.drift? d r = f.drift? d r') : f.Drifted d r ↔ f.Drifted d r' := by
  rw [drifted_iff, drifted_iff, h]

theorem forced_congr (h : f.drift? d r = f.drift? d r') : f.Forced d r ↔ f.Forced d r' := by
  by_cases hd : f.Drifted d r
  · obtain ⟨x, hx⟩ := drifted_iff.1 hd
    rw [forced_iff hx, forced_iff (h ▸ hx)]
  · have hd' : ¬ f.Drifted d r' := fun hd' => hd ((drifted_congr h).2 hd')
    exact ⟨fun hf => absurd hf.1 hd, fun hf => absurd hf.1 hd'⟩

/-- A resource that reports what it resolves to has not drifted. -/
theorem not_drifted_self (f : FieldSpec) (d : FieldMap) : ¬ f.Drifted d d := by
  rintro ⟨_, want, hwant, hne⟩
  exact hne (by simp [held, hwant])

/-- The declaration is taken to have of a managed attribute what it resolves to. -/
theorem map_form?_assumed_declared {desired m : FieldMap} (hm : f.desiredEntry desired = .ok (m.get? f.name)) :
    (f.assumed desired).map f.form? = (m.get? f.name).map some := by
  unfold assumed
  rcases desiredEntry_eq_ok.1 hm with ⟨v, w, hv, hcheck, hw⟩ | ⟨hn, ho, hw⟩
  · obtain ⟨ho, hnormal, _⟩ := checkType_eq_ok.1 (checkDesired_eq_ok.1 hcheck).1
    simp [hv, hw, form?_eq_some.2 ⟨ho, hnormal⟩]
  · rw [hn, hw, Option.none_or, defaultValue, Option.map_map]
    cases hdef : f.default with
    | none => rfl
    | some v =>
      simp only [defaultOverflows, hdef] at ho
      simp [form?, ho]

end FieldSpec

namespace Schema

variable {s : Schema} {d r r' : FieldMap}

theorem FirstForced.congr (hforced : ∀ f ∈ s.fields, (f.Forced d r ↔ f.Forced d r')) {reason : String}
    (h : s.FirstForced d r reason) : s.FirstForced d r' reason := by
  obtain ⟨before, f, after, hfs, hname, hf, hbefore⟩ := h
  refine ⟨before, f, after, hfs, hname, (hforced f (by simp [hfs])).1 hf, fun g hg hgf => ?_⟩
  exact hbefore g hg ((hforced g (by simp [hfs, hg])).2 hgf)

theorem FirstForced.unique {reason reason' : String} (h : s.FirstForced d r reason)
    (h' : s.FirstForced d r reason') : reason = reason' := by
  classical
  have hfind : ∀ {reason}, s.FirstForced d r reason →
      (s.fields.find? fun f => decide (f.Forced d r)).map (·.name) = some reason := by
    rintro _ ⟨before, f, after, hfs, rfl, hf, hbefore⟩
    have hfirst : (s.fields.find? fun f => decide (f.Forced d r)) = some f :=
      List.find?_eq_some_iff_append.2 ⟨decide_eq_true hf, before, after, hfs, fun g hg => by simp [hbefore g hg]⟩
    rw [hfirst, Option.map_some]
  exact Option.some.inj ((hfind h).symm.trans (hfind h'))

/-- The maps of an update hold what they hold because of what has drifted. -/
theorem IsUpdate.unique {changed changed' accompanying accompanying' : FieldMap}
    (hu : s.IsUpdate d r changed accompanying) (hu' : s.IsUpdate d r' changed' accompanying')
    (h : ∀ f ∈ s.fields, (f.Drifted d r ↔ f.Drifted d r')) : changed = changed' ∧ accompanying = accompanying' := by
  have hchanged : changed = changed' := SortedMap.ext_get? fun n => Option.ext fun v => by
    rw [hu.changed_iff, hu'.changed_iff]
    refine and_congr_right fun _ => exists_congr fun f => and_congr_right fun hf => and_congr_right fun _ => ?_
    exact h f hf
  subst hchanged
  exact ⟨rfl, SortedMap.ext_get? fun n => Option.ext fun v => by rw [hu.accompanying_iff, hu'.accompanying_iff]⟩

/-- Without a forced attribute, what has drifted is what the action changes. -/
theorem drifted_iff_changed (hno : ∀ f ∈ s.fields, ¬ f.Forced d r) {f : FieldSpec} (hf : f ∈ s.fields) :
    f.Drifted d r ↔ ∃ changed accompanying, s.action d r = .update changed accompanying ∧
      (changed.get? f.name).isSome = true := by
  constructor
  · intro hd
    obtain ⟨changed, accompanying, ha⟩ := exists_action_eq_update_iff.2 ⟨⟨f, hf, hd⟩, hno⟩
    obtain ⟨want, hw, _⟩ := hd.2
    have hsent := ((isUpdate_of_action ha).changed_iff f.name want).2 ⟨hw, f, hf, rfl, hd⟩
    exact ⟨changed, accompanying, ha, by rw [hsent, Option.isSome_some]⟩
  · rintro ⟨changed, accompanying, ha, hsent⟩
    obtain ⟨v, hv⟩ := Option.isSome_iff_exists.1 hsent
    obtain ⟨_, g, hg, hname, hd⟩ := ((isUpdate_of_action ha).changed_iff f.name v).1 hv
    rwa [eq_of_name_eq hg hf hname] at hd

/-- **The action tells what has drifted**, and nothing else of a reported map, unless an attribute is forced:
the first one then is all that it tells. -/
theorem action_eq_iff (hforced : ∀ f ∈ s.fields, (f.Forced d r ↔ f.Forced d r')) :
    s.action d r = s.action d r' ↔
      (∃ f ∈ s.fields, f.Forced d r) ∨ ∀ f ∈ s.fields, (f.Drifted d r ↔ f.Drifted d r') := by
  by_cases hsome : ∃ f ∈ s.fields, f.Forced d r
  · obtain ⟨reason, m, ha⟩ := exists_action_eq_replace_iff.2 hsome
    obtain ⟨reason', m', ha'⟩ := exists_action_eq_replace_iff.2 <|
      hsome.imp fun f hf => ⟨hf.1, (hforced f hf.1).1 hf.2⟩
    obtain ⟨hfirst, rfl⟩ := firstForced_of_action ha
    obtain ⟨hfirst', rfl⟩ := firstForced_of_action ha'
    rw [ha, ha', (hfirst.congr hforced).unique hfirst']
    exact ⟨fun _ => .inl hsome, fun _ => rfl⟩
  · have hno : ∀ f ∈ s.fields, ¬ f.Forced d r := fun f hf h => hsome ⟨f, hf, h⟩
    have hno' : ∀ f ∈ s.fields, ¬ f.Forced d r' := fun f hf h => hno f hf ((hforced f hf).2 h)
    refine ⟨fun ha => .inr fun f hf => ?_, fun h => ?_⟩
    · rw [drifted_iff_changed hno hf, drifted_iff_changed hno' hf, ha]
    · have hdrifted := h.resolve_left hsome
      by_cases hd : ∃ f ∈ s.fields, f.Drifted d r
      · have hd' : ∃ f ∈ s.fields, f.Drifted d r' := hd.imp fun f hf => ⟨hf.1, (hdrifted f hf.1).1 hf.2⟩
        obtain ⟨changed, accompanying, ha⟩ := exists_action_eq_update_iff.2 ⟨hd, hno⟩
        obtain ⟨changed', accompanying', ha'⟩ := exists_action_eq_update_iff.2 ⟨hd', hno'⟩
        obtain ⟨rfl, rfl⟩ := (isUpdate_of_action ha).unique (isUpdate_of_action ha') hdrifted
        rw [ha, ha']
      · have hquiet : ∀ f ∈ s.fields, ¬ f.Drifted d r := fun f hf h => hd ⟨f, hf, h⟩
        rw [action_eq_noop_iff.2 hquiet,
          action_eq_noop_iff.2 fun f hf h => hquiet f hf ((hdrifted f hf).2 h)]

end Schema

/-! ## The fold as a comparison sees it -/

namespace Vault.Mount

/-- The options of a mount; none where it names none. -/
def options (m : FieldMap) : SortedMap String := (m.map? "options").getD SortedMap.empty

/-- The options of a mount as the fold leaves them. -/
def foldedOptions (m : FieldMap) : SortedMap String :=
  if isVersionTwo m then (options m).erase "version" else options m

/-- A mount of one of the two types that the fold looks at, in any letter case. -/
def IsKeyValue (m : FieldMap) : Prop :=
  (m.string? "type").map Text.lowerCase = some "kv" ∨ (m.string? "type").map Text.lowerCase = some "kv-v2"

instance (m : FieldMap) : Decidable (IsKeyValue m) := inferInstanceAs (Decidable (_ ∨ _))

theorem not_isKeyValue_of_untyped {m : FieldMap} (h : m.get? "type" = none) : ¬ IsKeyValue m := by
  simp [IsKeyValue, FieldMap.string?, h]

/-- The rules of the options: they are always managed, and a change never forces a new mount. -/
theorem options_rules : "options" ∈ fields.map (·.name) ∧ ∀ f ∈ fields, f.name = "options" →
    f.normalizer = none ∧ f.type = .map ∧ f.default = some (.map SortedMap.empty) ∧ f.mutability = .mutable ∧
      f.latch = false := by
  simp [fields]

/-- The options are compared as they are. -/
theorem normalize_options {f : FieldSpec} (hf : f ∈ fields) (hname : f.name = "options") : f.normalize = id := by
  funext v
  simp [FieldSpec.normalize, (options_rules.2 f hf hname).1]

theorem not_forced_options {f : FieldSpec} (hf : f ∈ fields) (hname : f.name = "options") {d r : FieldMap} :
    ¬ f.Forced d r := by
  obtain ⟨_, _, _, hmutability, hlatch⟩ := options_rules.2 f hf hname
  rintro ⟨_, hi | ⟨hl, _⟩⟩
  · simp [hmutability] at hi
  · simp [hlatch] at hl

/-- The rules of the type: it is managed only where it is declared. -/
theorem type_rules : "type" ∈ fields.map (·.name) ∧ ∀ f ∈ fields, f.name = "type" →
    f.normalizer = some Normalizer.caseFold ∧ f.type = .string ∧ f.default = none ∧ f.mutability = .immutable := by
  simp [fields]

/-- Every default of the schema can be computed, so no comparison is stuck. -/
theorem isStuck_eq_false {f : FieldSpec} (hf : f ∈ fields) (d r : FieldMap) : f.isStuck d r = false := by
  have hdefaults : ∀ f ∈ fields, f.defaultOverflows = false := by decide +kernel
  simp [FieldSpec.isStuck, hdefaults f hf]

theorem compute_of_resolved {desired remote d r : FieldMap} (hd : schema.resolveDesired desired = .ok d)
    (hr : schema.resolveRemote remote = .ok r) :
    Plan.compute schema desired (some remote) = .ok (.single (schema.action d r)) := by
  have hstuck : Schema.stuck? d r schema.fields = none :=
    Schema.stuck?_eq_none fun f hf => isStuck_eq_false hf d r
  rw [Plan.compute_of_resolved hd hr, hstuck]

/-- The fold takes no attribute away and adds none. -/
theorem contains_foldVersionTwo (m : FieldMap) (n : String) : (foldVersionTwo m).contains n = m.contains n := by
  rw [SortedMap.contains_eq, SortedMap.contains_eq]
  by_cases hn : n = "type"
  · subst hn
    cases h : isVersionTwo m with
    | false => rw [foldVersionTwo_of_not h]
    | true =>
      cases ht : m.get? "type" with
      | some t => simp [get?_foldVersionTwo h]
      | none => simp [isVersionTwo, FieldMap.string?, ht] at h
  · exact isSome_foldVersionTwo m hn

theorem get?_options_foldVersionTwo (m : FieldMap) (hm : ∀ v, m.get? "options" = some v → v.type = .map) :
    (foldVersionTwo m).get? "options" = (m.get? "options").map fun _ => .map (foldedOptions m) := by
  unfold foldedOptions
  cases h : isVersionTwo m with
  | true => simp [get?_foldVersionTwo h, unversioned, options]
  | false =>
    rw [foldVersionTwo_of_not h]
    cases hv : m.get? "options" with
    | none => rfl
    | some v =>
      have htyped := hm v hv
      cases v with
      | map o => simp [options, FieldMap.map?, hv, FieldValue.map?]
      | bool | int | string | list => cases htyped

/-! ## What the fold looks at -/

theorem isVersionTwo_iff (m : FieldMap) : isVersionTwo m = true ↔
    (m.string? "type" = some "kv" ∧ (options m).get? "version" = some "2") ∨
      (m.string? "type" = some "kv-v2" ∧
        ((options m).get? "version" = none ∨ (options m).get? "version" = some "2")) := by
  unfold isVersionTwo options
  dsimp only
  split
  · rename_i h
    simp [h]
  · rename_i h
    simp [h]
  · rename_i hkv hkv2
    simp only [Bool.false_eq_true, false_iff]
    rintro (⟨ht, _⟩ | ⟨ht, _⟩)
    · exact hkv ht
    · exact hkv2 ht

section
variable {remote q : FieldMap} (hq : Schema.Collected (·.remoteEntry remote) fields q)
include hq

theorem get?_options_of_collected : q.get? "options" = remote.get? "options" ∧
    ∀ v, q.get? "options" = some v → v.type = .map := by
  obtain ⟨f, hf, hname⟩ := List.mem_map.1 options_rules.1
  have hentry := hq.get?_of_remote hf
  rwa [normalize_options hf hname, Option.map_id_fun, hname, (options_rules.2 f hf hname).2.1] at hentry

theorem string?_type_of_collected : q.string? "type" = (remote.string? "type").map Text.lowerCase := by
  obtain ⟨f, hf, hname⟩ := List.mem_map.1 type_rules.1
  obtain ⟨hnormal, htype, _⟩ := type_rules.2 f hf hname
  obtain ⟨hentry, htyped⟩ := hq.get?_of_remote hf
  rw [hname] at hentry htyped
  rw [FieldMap.string?, FieldMap.string?, hentry]
  cases hv : remote.get? "type" with
  | none => rfl
  | some v =>
    have hform : f.normalize v = Normalizer.caseFold.form v := by rw [FieldSpec.normalize, hnormal]
    have htext := htyped (f.normalize v) (by rw [hentry, hv]; rfl)
    rw [hform, htype] at htext
    rw [Option.map_some, hform]
    cases v with
    | string t => rfl
    | bool | int | list | map => cases htext

theorem options_of_collected : options q = options remote := by
  rw [options, options, FieldMap.map?, FieldMap.map?, (get?_options_of_collected hq).1]

/-- **What the fold makes of the options**: it takes the version 2 away from a key-value engine, and leaves
all others as they are reported. -/
theorem foldedOptions_of_collected : foldedOptions q =
    if (options remote).get? "version" = some "2" ∧ IsKeyValue remote then (options remote).erase "version"
    else options remote := by
  have hfolds := isVersionTwo_iff q
  rw [options_of_collected hq, string?_type_of_collected hq] at hfolds
  rw [foldedOptions, options_of_collected hq]
  by_cases htwo : (options remote).get? "version" = some "2"
  · have hkind : isVersionTwo q = true ↔ IsKeyValue remote := by
      rw [hfolds, IsKeyValue]
      simp [htwo]
    simp only [hkind, htwo, true_and]
  · have hkept : ¬ ((options remote).get? "version" = some "2" ∧ IsKeyValue remote) := fun h => htwo h.1
    rw [if_neg hkept]
    split
    · rename_i h
      -- an engine of type `kv-v2` is folded, but there is no version to take away
      have hnone : (options remote).get? "version" = none := by
        rcases hfolds.1 h with ⟨_, hversion⟩ | ⟨_, hversion | hversion⟩
        · exact absurd hversion htwo
        · exact hversion
        · exact absurd hversion htwo
      refine SortedMap.ext_get? fun n => ?_
      rw [SortedMap.get?_erase]
      split
      · rename_i hn
        rw [← hn, hnone]
      · rfl
    · rfl

end

/-- The options of a declaration are not changed before the fold. -/
theorem get?_options_of_declared {desired m : FieldMap} (hm : Schema.Collected (·.desiredEntry desired) fields m) :
    m.get? "options" = some (.map (options desired)) := by
  obtain ⟨f, hf, hname⟩ := List.mem_map.1 options_rules.1
  obtain ⟨_, htype, hdefault, _⟩ := options_rules.2 f hf hname
  have hentry := hm.entries f hf
  rw [hname] at hentry
  rw [options, FieldMap.map?]
  rcases FieldSpec.desiredEntry_eq_ok.1 hentry with ⟨v, w, hv, hcheck, hw⟩ | ⟨hn, _, hw⟩
  · obtain ⟨_, hform, hwtype⟩ := FieldSpec.checkType_eq_ok.1 (FieldSpec.checkDesired_eq_ok.1 hcheck).1
    rw [normalize_options hf hname] at hform
    subst hform
    rw [htype] at hwtype
    rw [hname] at hv
    rw [hv, hw]
    cases v with
    | map o => rfl
    | bool | int | string | list => cases hwtype
  · rw [hname] at hn
    rw [hn, hw, FieldSpec.defaultValue, hdefault, normalize_options hf hname]
    rfl

theorem options_of_declared {desired m : FieldMap} (hm : Schema.Collected (·.desiredEntry desired) fields m) :
    options m = options desired := by
  rw [options, FieldMap.map?, get?_options_of_declared hm]
  rfl

theorem get?_type_of_untyped {desired m : FieldMap} (hm : Schema.Collected (·.desiredEntry desired) fields m)
    (htype : desired.get? "type" = none) : m.get? "type" = none := by
  obtain ⟨f, hf, hname⟩ := List.mem_map.1 type_rules.1
  obtain ⟨_, _, hdefault, _⟩ := type_rules.2 f hf hname
  have hsome := hm.isSome_get?_iff hf
  rw [hname, htype, hdefault] at hsome
  simpa using hsome

theorem foldedOptions_of_untyped {desired m : FieldMap}
    (hm : Schema.Collected (·.desiredEntry desired) fields m) (htype : desired.get? "type" = none) :
    foldedOptions m = options desired := by
  have hnone := get?_type_of_untyped hm htype
  have hfolds : isVersionTwo m = false := by simp [isVersionTwo, FieldMap.string?, hnone]
  rw [foldedOptions, hfolds, if_neg Bool.false_ne_true, options_of_declared hm]

/-! ## Comparisons -/

/-- Reported maps that are taken to have the same of the options have the same options. -/
theorem options_eq_of_assumed {f : FieldSpec} (hf : f ∈ fields) (hname : f.name = "options") {remote remote' : FieldMap}
    (h : (f.assumed remote).map f.form? = (f.assumed remote').map f.form?) : options remote = options remote' := by
  obtain ⟨hnormal, _, hdefault, _⟩ := options_rules.2 f hf hname
  have hform : f.form? = some := by
    funext v
    simp [FieldSpec.form?, FieldSpec.overflowsOn, FieldSpec.normalize, hnormal]
  have hassumed : ∀ m, options m = ((f.assumed m).bind FieldValue.map?).getD SortedMap.empty := by
    intro m
    rw [options, FieldMap.map?, FieldSpec.assumed, hname, hdefault]
    cases m.get? "options" <;> rfl
  have hsame : f.assumed remote = f.assumed remote' := by
    rw [hform] at h
    cases hr : f.assumed remote <;> cases hr' : f.assumed remote' <;> simp_all
  rw [hassumed, hassumed, hsame]

/-- The fold leaves the other attributes of a comparison alone. -/
theorem held_foldVersionTwo {f : FieldSpec} (ht : f.name ≠ "type") (ho : f.name ≠ "options") (m : FieldMap) :
    f.held (foldVersionTwo m) = f.held m := by
  rw [FieldSpec.held, FieldSpec.held, get?_foldVersionTwo_of_ne ht ho]

section
variable {desired remote remote' : FieldMap}
  (h : ∀ f ∈ fields, f.Managed desired → (f.assumed remote).map f.form? = (f.assumed remote').map f.form?)
include h

theorem options_eq_of_managed : options remote = options remote' := by
  obtain ⟨f, hf, hname⟩ := List.mem_map.1 options_rules.1
  obtain ⟨_, _, hdefault, hmutability, _⟩ := options_rules.2 f hf hname
  exact options_eq_of_assumed hf hname <|
    h f hf ⟨by simp [hmutability], .inr (by rw [hdefault, Option.isSome_some])⟩

variable {q q' : FieldMap} (hq : Schema.Collected (·.remoteEntry remote) fields q)
  (hq' : Schema.Collected (·.remoteEntry remote') fields q')
include hq hq'

/-- Where the type is managed, the fold finds the same type on both sides, and the same version. -/
theorem get?_type_eq_of_managed {f : FieldSpec} (hf : f ∈ fields) (hname : f.name = "type")
    (hmanaged : f.Managed desired) : q.get? "type" = q'.get? "type" ∧ isVersionTwo q = isVersionTwo q' := by
  obtain ⟨_, _, hdefault, _⟩ := type_rules.2 f hf hname
  have hheld := (FieldSpec.held_isStuck_congr (hq.entries f hf) (hq'.entries f hf) (h f hf hmanaged) q).1
  have htype : q.get? "type" = q'.get? "type" := by
    simpa [FieldSpec.held, FieldSpec.defaultValue, hdefault, hname] using hheld
  refine ⟨htype, Bool.eq_iff_iff.2 ?_⟩
  rw [isVersionTwo_iff, isVersionTwo_iff, options_of_collected hq, options_of_collected hq',
    options_eq_of_managed h, FieldMap.string?, FieldMap.string?, htype]

/-- Then the fold puts the same type there. -/
theorem get?_type_foldVersionTwo_eq_of_managed {f : FieldSpec} (hf : f ∈ fields) (hname : f.name = "type")
    (hmanaged : f.Managed desired) : (foldVersionTwo q).get? "type" = (foldVersionTwo q').get? "type" := by
  obtain ⟨htype, hversion⟩ := get?_type_eq_of_managed h hq hq' hf hname hmanaged
  cases htwo : isVersionTwo q with
  | true => simp [get?_foldVersionTwo htwo, get?_foldVersionTwo (hversion ▸ htwo)]
  | false => rw [foldVersionTwo_of_not htwo, foldVersionTwo_of_not (hversion ▸ htwo), htype]

end

section
variable {desired m : FieldMap} (hm : Schema.Collected (·.desiredEntry desired) fields m)
include hm

/-- The options have drifted where the fold leaves others than the declared ones. -/
theorem drifted_options_iff {remote q : FieldMap} (hq : Schema.Collected (·.remoteEntry remote) fields q)
    {f : FieldSpec} (hf : f ∈ fields) (hname : f.name = "options") :
    f.Drifted (foldVersionTwo m) (foldVersionTwo q) ↔ foldedOptions q ≠ foldedOptions m := by
  obtain ⟨hnormal, _, hdefault, hmutability, _⟩ := options_rules.2 f hf hname
  have ho := get?_options_of_declared hm
  have hwant : (foldVersionTwo m).get? f.name = some (.map (foldedOptions m)) := by
    rw [hname, get?_options_foldVersionTwo m fun v hv => by rw [ho] at hv; cases hv; rfl, ho, Option.map_some]
  have hheld : f.held (foldVersionTwo q) = some (.map (foldedOptions q)) := by
    rw [FieldSpec.held, hname, get?_options_foldVersionTwo q (get?_options_of_collected hq).2]
    cases hv : q.get? "options" with
    | some v => rfl
    | none =>
      have hnone : options q = SortedMap.empty := by rw [options, FieldMap.map?, hv]; rfl
      have hfolded : foldedOptions q = SortedMap.empty := by
        rw [foldedOptions, hnone]
        split <;> rfl
      simp [hfolded, FieldSpec.defaultValue, hdefault, FieldSpec.normalize, hnormal]
  simp [FieldSpec.Drifted, hwant, hheld, hmutability]

theorem managed_of_contains {f : FieldSpec} (hf : f ∈ fields) (hmut : f.mutability ≠ .computed)
    (hmem : (foldVersionTwo m).contains f.name = true) : f.Managed desired := by
  rw [contains_foldVersionTwo] at hmem
  exact ⟨hmut, (hm.isSome_get?_iff hf).1 hmem⟩

variable {remote remote' q q' : FieldMap} (hq : Schema.Collected (·.remoteEntry remote) fields q)
  (hq' : Schema.Collected (·.remoteEntry remote') fields q')
  (h : ∀ f ∈ fields, f.Managed desired → (f.assumed remote).map f.form? = (f.assumed remote').map f.form?)
include hq hq' h

/-- Of all attributes but the options, a comparison finds out the same. -/
theorem drift?_eq_of_managed {f : FieldSpec} (hf : f ∈ fields) (hname : f.name ≠ "options") :
    f.drift? (foldVersionTwo m) (foldVersionTwo q) = f.drift? (foldVersionTwo m) (foldVersionTwo q') := by
  refine FieldSpec.drift?_congr fun hmut hmem => ?_
  have hmanaged : f.Managed desired := managed_of_contains hm hf hmut hmem
  by_cases htype : f.name = "type"
  · rw [FieldSpec.held, FieldSpec.held, htype,
      get?_type_foldVersionTwo_eq_of_managed h hq hq' hf htype hmanaged]
  · rw [held_foldVersionTwo htype hname, held_foldVersionTwo htype hname]
    exact (FieldSpec.held_isStuck_congr (hq.entries f hf) (hq'.entries f hf) (h f hf hmanaged) m).1

/-- Only the options can tell the plans for two such maps apart. -/
theorem action_eq_iff_of_managed :
    schema.action (foldVersionTwo m) (foldVersionTwo q) = schema.action (foldVersionTwo m) (foldVersionTwo q') ↔
      (∃ f ∈ fields, f.Forced (foldVersionTwo m) (foldVersionTwo q)) ∨
        (foldedOptions q ≠ foldedOptions m ↔ foldedOptions q' ≠ foldedOptions m) := by
  obtain ⟨o, ho, honame⟩ := List.mem_map.1 options_rules.1
  have hchoice : ∀ f ∈ fields, f = o ∨ f.name ≠ "options" := fun f hf => by
    by_cases hname : f.name = "options"
    · exact .inl (Schema.eq_of_name_eq (s := schema) hf ho (hname.trans honame.symm))
    · exact .inr hname
  rw [Schema.action_eq_iff fun f hf => ?_]
  · refine or_congr_right ?_
    rw [← drifted_options_iff hm hq ho honame, ← drifted_options_iff hm hq' ho honame]
    refine ⟨fun hall => hall o ho, fun hoptions f hf => ?_⟩
    rcases hchoice f hf with rfl | hname
    · exact hoptions
    · exact FieldSpec.drifted_congr (drift?_eq_of_managed hm hq hq' h hf hname)
  · rcases hchoice f hf with rfl | hname
    · exact iff_of_false (not_forced_options hf honame) (not_forced_options hf honame)
    · exact FieldSpec.forced_congr (drift?_eq_of_managed hm hq hq' h hf hname)

end

/-! ## Where the fold tears alike mounts apart -/

/-- The declaration leaves the type open, one of two reported maps is a key-value engine and the other is not,
and both have the options of the declaration, with the version 2 or as the fold leaves them. -/
structure Torn (desired remote remote' : FieldMap) : Prop where
  untyped : desired.get? "type" = none
  version : (options remote).get? "version" = some "2"
  apart : ¬ (IsKeyValue remote ↔ IsKeyValue remote')
  declared : options desired = options remote ∨ options desired = (options remote).erase "version"

theorem erase_version_ne {o : SortedMap String} (h : o.get? "version" = some "2") : o.erase "version" ≠ o := by
  intro he
  have hnone : (o.erase "version").get? "version" = none := by rw [SortedMap.get?_erase, if_pos rfl]
  rw [he, h] at hnone
  cases hnone

theorem ne_iff_ne_iff {α : Type} {a b c : α} (h : a ≠ b) : (a ≠ c ↔ b ≠ c) ↔ ¬ (c = b ∨ c = a) := by
  by_cases hb : c = b
  · subst hb
    simp [h]
  · by_cases ha : c = a
    · subst ha
      simp [Ne.symm h]
    · simp [ha, hb, Ne.symm ha, Ne.symm hb]

/-- Of two mounts that are alike in what is managed, the options have drifted in one and not in the other
exactly if the fold tears them apart. -/
theorem drifted_alike_iff {desired remote remote' m q q' : FieldMap}
    (hm : Schema.Collected (·.desiredEntry desired) fields m)
    (hq : Schema.Collected (·.remoteEntry remote) fields q) (hq' : Schema.Collected (·.remoteEntry remote') fields q')
    (h : ∀ f ∈ fields, f.Managed desired → (f.assumed remote).map f.form? = (f.assumed remote').map f.form?) :
    (foldedOptions q ≠ foldedOptions m ↔ foldedOptions q' ≠ foldedOptions m) ↔ ¬ Torn desired remote remote' := by
  have hoptions := options_eq_of_managed h
  by_cases htype : desired.get? "type" = none
  · rw [foldedOptions_of_untyped hm htype, foldedOptions_of_collected hq, foldedOptions_of_collected hq', ← hoptions]
    by_cases hversion : (options remote).get? "version" = some "2"
    · have hne := erase_version_ne hversion
      have htorn : Torn desired remote remote' ↔ ¬ (IsKeyValue remote ↔ IsKeyValue remote') ∧
          (options desired = options remote ∨ options desired = (options remote).erase "version") :=
        ⟨fun ht => ⟨ht.apart, ht.declared⟩, fun ht => ⟨htype, hversion, ht.1, ht.2⟩⟩
      rw [htorn]
      by_cases hk : IsKeyValue remote <;> by_cases hk' : IsKeyValue remote' <;>
        simp only [hversion, hk, hk', and_self, and_false, if_true, if_false, not_true_eq_false, false_and,
          not_false_eq_true, iff_false, iff_true, true_and]
      · exact ne_iff_ne_iff hne
      · exact Iff.comm.trans (ne_iff_ne_iff hne)
    · simp only [hversion, false_and, if_false, true_iff]
      exact fun ht => hversion ht.version
  · -- a type that is declared is managed, so that it is the same on both sides
    obtain ⟨f, hf, hname⟩ := List.mem_map.1 type_rules.1
    obtain ⟨_, _, _, hmutability⟩ := type_rules.2 f hf hname
    have hmanaged : f.Managed desired := by
      refine ⟨by simp [hmutability], .inl ?_⟩
      rw [SortedMap.contains_eq, hname]
      exact Option.isSome_iff_ne_none.2 htype
    have hfolded : foldedOptions q = foldedOptions q' := by
      rw [foldedOptions, foldedOptions, (get?_type_eq_of_managed h hq hq' hf hname hmanaged).2,
        options_of_collected hq, options_of_collected hq', hoptions]
    rw [hfolded]
    exact iff_of_true Iff.rfl fun ht => htype ht.untyped

/-- Plans for reported maps that are alike in what is managed. -/
theorem compute_eq_iff_of_alike {desired remote remote' d r r' : FieldMap}
    (hd : schema.resolveDesired desired = .ok d) (hr : schema.resolveRemote remote = .ok r)
    (hr' : schema.resolveRemote remote' = .ok r')
    (h : ∀ f ∈ fields, f.Managed desired → (f.assumed remote).map f.form? = (f.assumed remote').map f.form?) :
    Plan.compute schema desired (some remote) = Plan.compute schema desired (some remote') ↔
      ¬ (Torn desired remote remote' ∧ ∀ f ∈ fields, ¬ f.Forced d r) := by
  rw [compute_of_resolved hd hr, compute_of_resolved hd hr']
  obtain ⟨_, m, hm, rfl⟩ := Schema.resolveDesired_eq_ok.1 hd
  obtain ⟨q, hq, rfl⟩ := Schema.resolveRemote_eq_ok.1 hr
  obtain ⟨q', hq', rfl⟩ := Schema.resolveRemote_eq_ok.1 hr'
  have hactions := (action_eq_iff_of_managed hm hq hq' h).trans (or_congr_right (drifted_alike_iff hm hq hq' h))
  simp only [Plan.single, Except.ok.injEq, Plan.mk.injEq, List.cons.injEq, and_true]
  refine hactions.trans ⟨?_, fun hno => ?_⟩
  · rintro (⟨f, hf, hforced⟩ | hwhole) ⟨htorn, hno⟩
    · exact hno f hf hforced
    · exact hwhole htorn
  · by_cases htorn : Torn desired remote remote'
    · exact .inl (by_contra fun hn => hno ⟨htorn, fun f hf hforced => hn ⟨f, hf, hforced⟩⟩)
    · exact .inr htorn

/-- The plan for a reported map that is alike to the declaration itself in what is managed. -/
theorem compute_eq_noop_iff_of_alike {desired remote d r : FieldMap} (hd : schema.resolveDesired desired = .ok d)
    (hr : schema.resolveRemote remote = .ok r)
    (h : ∀ f ∈ fields, f.Managed desired → (f.assumed remote).map f.form? = (f.assumed desired).map f.form?) :
    Plan.compute schema desired (some remote) = .ok (.single .noop) ↔
      ¬ (desired.get? "type" = none ∧ (options desired).get? "version" = some "2" ∧ IsKeyValue remote) := by
  obtain ⟨_, m, hm, rfl⟩ := Schema.resolveDesired_eq_ok.1 hd
  obtain ⟨q, hq, rfl⟩ := Schema.resolveRemote_eq_ok.1 hr
  have hsettled : schema.Settled m := Schema.settled_of_desired schema_regular hm
  have hmr : schema.resolveRemote m = .ok (schema.canonicalize m) := Schema.resolveRemote_of_settled hsettled
  -- the declaration before the fold stands for a mount that reports its own state
  have hself : Plan.compute schema desired (some m) = .ok (.single .noop) := by
    rw [compute_of_resolved hd hmr, Schema.action_eq_noop_iff.2 fun f _ => f.not_drifted_self _]
  have halike : ∀ f ∈ fields, f.Managed desired → (f.assumed remote).map f.form? = (f.assumed m).map f.form? := by
    intro f hf hmanaged
    obtain ⟨v, hv⟩ := Option.isSome_iff_exists.1 ((hm.isSome_get?_iff hf).2 hmanaged.2)
    rw [h f hf hmanaged, FieldSpec.map_form?_assumed_declared (hm.entries f hf),
      FieldSpec.map_form?_assumed (hsettled.collected.entries f hf), hv]
    rfl
  have hoptions : options remote = options desired :=
    (options_eq_of_managed halike).trans (options_of_declared hm)
  rw [← hself, compute_eq_iff_of_alike hd hr hmr halike]
  refine not_congr ⟨fun ⟨htorn, _⟩ => ?_, fun ⟨htype, hversion, hkind⟩ => ?_⟩
  · have hplain : ¬ IsKeyValue m := not_isKeyValue_of_untyped (get?_type_of_untyped hm htorn.untyped)
    have hkind : IsKeyValue remote := by_contra fun hk => htorn.apart (iff_of_false hk hplain)
    exact ⟨htorn.untyped, hoptions ▸ htorn.version, hkind⟩
  · have hplain : ¬ IsKeyValue m := not_isKeyValue_of_untyped (get?_type_of_untyped hm htype)
    refine ⟨⟨htype, hoptions ▸ hversion, fun hk => hplain (hk.1 hkind), .inl hoptions.symm⟩, fun f hf hforced => ?_⟩
    by_cases hname : f.name = "options"
    · exact not_forced_options hf hname hforced
    · have hsame := drift?_eq_of_managed hm hq hsettled.collected halike hf hname
      exact f.not_drifted_self _ ((FieldSpec.drifted_congr hsame).1 hforced.1)

/-- **What is not managed can matter to mounts.** Two reported maps that are accepted, and that are taken to hold
values of the same normal form for every managed attribute, have the same plan, except where the fold tears them
apart and no attribute forces a new mount. A reported map that is taken to hold what is declared of every managed
attribute needs nothing done, except that a declaration of version 2 which leaves the type open has an update of
every key-value engine. -/
theorem compute_alike {desired remote d r : FieldMap} (hd : schema.resolveDesired desired = .ok d)
    (hr : schema.resolveRemote remote = .ok r) :
    (∀ remote' r' : FieldMap, schema.resolveRemote remote' = .ok r' →
      (∀ f ∈ schema.fields, f.Managed desired → (f.assumed remote).map f.form? = (f.assumed remote').map f.form?) →
      (Plan.compute schema desired (some remote) = Plan.compute schema desired (some remote') ↔
        ¬ (Torn desired remote remote' ∧ ∀ f ∈ schema.fields, ¬ f.Forced d r))) ∧
    ((∀ f ∈ schema.fields, f.Managed desired → (f.assumed remote).map f.form? = (f.assumed desired).map f.form?) →
      (Plan.compute schema desired (some remote) = .ok (.single .noop) ↔
        ¬ (desired.get? "type" = none ∧ (options desired).get? "version" = some "2" ∧ IsKeyValue remote))) :=
  ⟨fun _ _ hr' h => compute_eq_iff_of_alike hd hr hr' h, fun h => compute_eq_noop_iff_of_alike hd hr h⟩

def versionTwo : FieldMap := .ofList [("options", .map (.ofList [("version", "2")]))]

/-- The declaration of version 2 is torn, but a seal that is to be put on forces the same new mount. With a type, it
is in line with a mount of this type. -/
theorem compute_alike_sealed :
    Torn (versionTwo.insert "seal_wrap" (.bool true)) (versionTwo.insert "type" (.string "KV")) versionTwo ∧
    Plan.compute schema (versionTwo.insert "seal_wrap" (.bool true)) (some (versionTwo.insert "type" (.string "KV"))) =
      Plan.compute schema (versionTwo.insert "seal_wrap" (.bool true)) (some versionTwo) ∧
    Plan.compute schema (versionTwo.insert "type" (.string "kv")) (some (versionTwo.insert "type" (.string "KV"))) =
      .ok (.single .noop) := by
  let plain : FieldMap := .ofList [("external_entropy_access", .bool false), ("local", .bool false)]
  let folded : FieldMap := .ofList [("options", .map .empty), ("type", .string "kv-v2")]
  let sealed : FieldMap := (versionTwo.overwrite plain).insert "seal_wrap" (.bool true)
  have hsealed : schema.resolveDesired (versionTwo.insert "seal_wrap" (.bool true)) = .ok sealed := by decide +kernel
  have htyped : schema.resolveDesired (versionTwo.insert "type" (.string "kv")) = .ok (folded.overwrite plain) := by
    decide +kernel
  have hreported : schema.resolveRemote (versionTwo.insert "type" (.string "KV")) = .ok folded := by decide +kernel
  have hforced : ∃ f ∈ schema.fields, f.Forced sealed folded :=
    Schema.exists_action_eq_replace_iff.1 ⟨"seal_wrap", sealed, by decide +kernel⟩
  refine ⟨⟨by decide +kernel, by decide +kernel, by decide +kernel, .inl (by decide +kernel)⟩, ?_, ?_⟩
  · refine ((compute_alike hsealed hreported).1 versionTwo versionTwo (by decide +kernel) (by decide +kernel)).2 ?_
    rintro ⟨_, hno⟩
    obtain ⟨f, hf, hf'⟩ := hforced
    exact hno f hf hf'
  · refine ((compute_alike htyped hreported).2 (by decide +kernel)).2 ?_
    rintro ⟨htype, _⟩
    revert htype
    decide +kernel

/-- A declaration of version 2 without a type is in line with a mount that reports no type. It has an update of one
that reports to be a key-value engine, though both are taken to hold what is declared of every managed attribute,
and the same update again after that. -/
theorem compute_alike_untyped :
    (∀ f ∈ schema.fields, f.Managed versionTwo →
      (f.assumed (versionTwo.insert "type" (.string "kv"))).map f.form? = (f.assumed versionTwo).map f.form?) ∧
    Plan.compute schema versionTwo (some versionTwo) = .ok (.single .noop) ∧
    ∃ changed accompanying, Plan.compute schema versionTwo (some (versionTwo.insert "type" (.string "kv"))) =
        .ok (.single (.update changed accompanying)) ∧
      Plan.compute schema versionTwo
          (some ((versionTwo.insert "type" (.string "kv")).overwrite (updatePayload changed accompanying))) =
        .ok (.single (.update changed accompanying)) := by
  refine ⟨by decide +kernel, by decide +kernel, versionTwo, .empty, ?_, ?_⟩ <;> decide +kernel

end Vault.Mount

end Converge
