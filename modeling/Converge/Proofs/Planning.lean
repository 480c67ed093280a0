import Converge.Plan
import Converge.Vault.TransitKey.Schema
import Converge.Proofs.Resolution

/-!
# Planning

What a plan says, told without the comparison that makes it. An attribute has *drifted* when the
declaration has a value for it that is not the one held, and it is *forced* when only a new resource
mends that. `Schema.action_cases` reads the action off these two, and `Plan.compute_eq_ok` takes a plan
apart into its resolved sides. Main theorem: `Plan.compute_exact`.
-/

namespace Converge

/-! ## Maps made from a schema -/

namespace SortedMap

variable {β : Type}

theorem lookup_eq_some_of_nodup {n : String} {v : β} {es : List (String × β)}
    (h : (es.map (·.1)).Nodup) : lookup n es = some v ↔ (n, v) ∈ es := by
  induction es with
  | nil => simp [lookup]
  | cons e es ih =>
    obtain ⟨a, b⟩ := e
    simp only [List.map_cons, List.nodup_cons] at h
    simp only [lookup, List.mem_cons, Prod.mk.injEq]
    by_cases ha : a = n
    · subst ha
      have hn : (a, v) ∉ es := fun hm => h.1 (List.mem_map_of_mem hm)
      simp [hn, eq_comm]
    · simp [ha, Ne.symm ha, ih h.2]

theorem get?_ofList_eq_some {n : String} {v : β} {es : List (String × β)}
    (h : (es.map (·.1)).Nodup) : (ofList es).get? n = some v ↔ (n, v) ∈ es := by
  rw [get?_ofList, lookup_reverse h, lookup_eq_some_of_nodup h]

end SortedMap

namespace Schema

theorem map_filterMap_sublist {α β γ : Type} {g : α → Option β} {h : β → γ} {k : α → γ} {l : List α}
    (hg : ∀ a b, g a = some b → h b = k a) : ((l.filterMap g).map h).Sublist (l.map k) := by
  induction l with
  | nil => exact List.Sublist.refl _
  | cons a l ih =>
    cases ha : g a with
    | none =>
      rw [List.filterMap_cons_none ha]
      exact ih.trans (List.sublist_cons_self _ _)
    | some b =>
      rw [List.filterMap_cons_some ha, List.map_cons, List.map_cons, hg a b ha]
      exact ih.cons_cons _

/-- A map with at most one entry for each attribute, under its name. -/
theorem get?_ofList_fields {s : Schema} {g : FieldSpec → Option (String × FieldValue)}
    (hg : ∀ f e, g f = some e → e.1 = f.name) {n : String} {v : FieldValue} :
    (SortedMap.ofList (s.fields.filterMap g)).get? n = some v ↔ ∃ f ∈ s.fields, g f = some (n, v) := by
  rw [SortedMap.get?_ofList_eq_some (s.names_nodup.sublist (map_filterMap_sublist hg)),
    List.mem_filterMap]

end Schema

/-! ## Drift -/

namespace FieldSpec

/-- The value that a reported map holds of an attribute; one that it leaves out holds its default. -/
def held (f : FieldSpec) (remote : FieldMap) : Option FieldValue :=
  (remote.get? f.name).or f.defaultValue

/-- The declaration manages the attribute and wants another value than the one held. -/
def Drifted (f : FieldSpec) (desired remote : FieldMap) : Prop :=
  f.mutability ≠ .computed ∧ ∃ want, desired.get? f.name = some want ∧ f.held remote ≠ some want

/-- The attribute has drifted and cannot be changed in place: it is immutable, or a latch that is to go
from true back to false. -/
def Forced (f : FieldSpec) (desired remote : FieldMap) : Prop :=
  f.Drifted desired remote ∧
    (f.mutability = .immutable ∨
      (f.latch = true ∧ f.held remote = some (.bool true) ∧ desired.get? f.name = some (.bool false)))

theorem drift?_eq_some {f : FieldSpec} {desired remote : FieldMap} {x : Drift} :
    f.drift? desired remote = some x ↔ f.mutability ≠ .computed ∧ desired.get? f.name = some x.want ∧
      f.held remote ≠ some x.want ∧ x.field = f ∧ x.held = f.held remote := by
  unfold drift? isComputed held
  obtain ⟨g, h, w⟩ := x
  by_cases hc : f.mutability = .computed
  · simp [hc]
  · cases hd : desired.get? f.name with
    | none => simp [hc]
    | some want =>
      simp only [hc, decide_false, Bool.false_eq_true, if_false, ne_eq, not_false_eq_true, true_and,
        Option.some.injEq]
      split
      · rename_i he
        simp only [reduceCtorEq, false_iff]
        rintro ⟨rfl, hne, _⟩
        exact hne he
      · rename_i he
        simp only [Option.some.injEq, Drift.mk.injEq]
        constructor
        · rintro ⟨rfl, rfl, rfl⟩
          exact ⟨rfl, he, rfl, rfl⟩
        · rintro ⟨rfl, _, rfl, rfl⟩
          exact ⟨rfl, rfl, rfl⟩

theorem drifted_iff {f : FieldSpec} {desired remote : FieldMap} :
    f.Drifted desired remote ↔ ∃ x, f.drift? desired remote = some x := by
  constructor
  · rintro ⟨hc, want, hd, hne⟩
    exact ⟨⟨f, f.held remote, want⟩, drift?_eq_some.2 ⟨hc, hd, hne, rfl, rfl⟩⟩
  · rintro ⟨x, hx⟩
    obtain ⟨hc, hd, hne, _⟩ := drift?_eq_some.1 hx
    exact ⟨hc, x.want, hd, hne⟩

theorem forced_iff {f : FieldSpec} {desired remote : FieldMap} {x : Drift}
    (hx : f.drift? desired remote = some x) : f.Forced desired remote ↔ x.forcesReplace = true := by
  obtain ⟨_, hd, _, rfl, hh⟩ := drift?_eq_some.1 hx
  unfold Forced Drift.forcesReplace Drift.releasesLatch
  simp only [drifted_iff.2 ⟨x, hx⟩, true_and, Bool.or_eq_true, Bool.and_eq_true, decide_eq_true_eq,
    beq_iff_eq, hd, hh, Option.some.injEq, and_assoc]

end FieldSpec

namespace Schema

/-- The first attribute, in the order of the schema, that forces a replacement. -/
def FirstForced (s : Schema) (desired remote : FieldMap) (reason : String) : Prop :=
  ∃ before f after, s.fields = before ++ f :: after ∧ f.name = reason ∧ f.Forced desired remote ∧
    ∀ g ∈ before, ¬ g.Forced desired remote

/-- What the two maps of an update hold. -/
structure IsUpdate (s : Schema) (desired remote changed accompanying : FieldMap) : Prop where
  changed_iff : ∀ n v, changed.get? n = some v ↔
    desired.get? n = some v ∧ ∃ f ∈ s.fields, f.name = n ∧ f.Drifted desired remote
  accompanying_iff : ∀ n v, accompanying.get? n = some v ↔
    desired.get? n = some v ∧ changed.get? n = none ∧
      ∃ f ∈ s.fields, f.name = n ∧ f.alwaysSend = true

theorem mem_drifts {s : Schema} {desired remote : FieldMap} {x : Drift} :
    x ∈ s.drifts desired remote ↔ ∃ f ∈ s.fields, f.drift? desired remote = some x :=
  List.mem_filterMap

theorem drifts_eq_nil_iff {s : Schema} {desired remote : FieldMap} :
    s.drifts desired remote = [] ↔ ∀ f ∈ s.fields, ¬ f.Drifted desired remote := by
  simp only [drifts, List.filterMap_eq_nil_iff, FieldSpec.drifted_iff, not_exists,
    Option.eq_none_iff_forall_ne_some, ne_eq]

theorem find?_forces_eq_none {s : Schema} {desired remote : FieldMap} :
    (s.drifts desired remote).find? (·.forcesReplace) = none ↔
      ∀ f ∈ s.fields, ¬ f.Forced desired remote := by
  rw [List.find?_eq_none]
  constructor
  · intro h f hf hforced
    obtain ⟨x, hx⟩ := FieldSpec.drifted_iff.1 hforced.1
    exact h x (mem_drifts.2 ⟨f, hf, hx⟩) ((FieldSpec.forced_iff hx).1 hforced)
  · intro h x hx hforces
    obtain ⟨f, hf, hd⟩ := mem_drifts.1 hx
    exact h f hf ((FieldSpec.forced_iff hd).2 hforces)

theorem firstForced_of_find? {s : Schema} {desired remote : FieldMap} {x : Drift}
    (h : (s.drifts desired remote).find? (·.forcesReplace) = some x) :
    s.FirstForced desired remote x.field.name := by
  -- the search through the drifts is a search through the attributes
  rw [drifts, List.find?_filterMap] at h
  obtain ⟨f, hfind, hx⟩ := Option.bind_eq_some_iff.1 h
  obtain ⟨hp, before, after, hfs, hbefore⟩ := List.find?_eq_some_iff_append.1 hfind
  simp only [hx, Option.any_some] at hp
  obtain ⟨_, _, _, hfield, _⟩ := FieldSpec.drift?_eq_some.1 hx
  refine ⟨before, f, after, hfs, hfield ▸ rfl, (FieldSpec.forced_iff hx).2 hp, fun g hg hforced => ?_⟩
  obtain ⟨y, hy⟩ := FieldSpec.drifted_iff.1 hforced.1
  have := hbefore g hg
  simp [hy, (FieldSpec.forced_iff hy).1 hforced] at this

theorem isUpdate_action {s : Schema} {desired remote changed : FieldMap}
    (hc : changed = SortedMap.ofList ((s.drifts desired remote).map fun d => (d.field.name, d.want))) :
    s.IsUpdate desired remote changed (s.accompanying desired changed) := by
  constructor
  · intro n v
    rw [hc, drifts, List.map_filterMap, get?_ofList_fields]
    · constructor
      · rintro ⟨f, hf, h⟩
        obtain ⟨x, hx, he⟩ := Option.map_eq_some_iff.1 h
        obtain ⟨_, hd, _, rfl, _⟩ := FieldSpec.drift?_eq_some.1 hx
        cases he
        exact ⟨hd, x.field, hf, rfl, FieldSpec.drifted_iff.2 ⟨x, hx⟩⟩
      · rintro ⟨hd, f, hf, rfl, hdr⟩
        obtain ⟨x, hx⟩ := FieldSpec.drifted_iff.1 hdr
        obtain ⟨_, hd', _, hfield, _⟩ := FieldSpec.drift?_eq_some.1 hx
        rw [hd] at hd'
        cases hd'
        exact ⟨f, hf, by simp [hx, hfield]⟩
    · intro f e h
      obtain ⟨x, hx, rfl⟩ := Option.map_eq_some_iff.1 h
      obtain ⟨_, _, _, hfield, _⟩ := FieldSpec.drift?_eq_some.1 hx
      exact congrArg FieldSpec.name hfield
  · intro n v
    rw [accompanying, get?_ofList_fields]
    · constructor
      · rintro ⟨f, hf, h⟩
        split at h
        · rename_i hs
          obtain ⟨w, hw, he⟩ := Option.map_eq_some_iff.1 h
          cases he
          simp only [SortedMap.contains_eq, Bool.and_eq_true, Bool.not_eq_true', Option.isSome_eq_false_iff,
            Option.isNone_iff_eq_none] at hs
          exact ⟨hw, hs.2, f, hf, rfl, hs.1⟩
        · cases h
      · rintro ⟨hd, hn, f, hf, rfl, hs⟩
        exact ⟨f, hf, by simp [hs, hn, hd]⟩
    · intro f e h
      split at h
      · obtain ⟨w, _, rfl⟩ := Option.map_eq_some_iff.1 h
        rfl
      · cases h

/-- **What the action is**: nothing where nothing has drifted, a replacement for the first attribute that
forces one, and otherwise an update of all that has drifted. -/
theorem action_cases (s : Schema) (desired remote : FieldMap) :
    (s.action desired remote = .noop ∧ ∀ f ∈ s.fields, ¬ f.Drifted desired remote) ∨
    (∃ reason, s.action desired remote = .replace reason desired ∧
      s.FirstForced desired remote reason) ∨
    ∃ changed accompanying, s.action desired remote = .update changed accompanying ∧
      (∃ f ∈ s.fields, f.Drifted desired remote) ∧ (∀ f ∈ s.fields, ¬ f.Forced desired remote) ∧
        s.IsUpdate desired remote changed accompanying := by
  unfold action
  cases hf : (s.drifts desired remote).find? (·.forcesReplace) with
  | some x => exact .inr (.inl ⟨_, by simp [hf], firstForced_of_find? hf⟩)
  | none =>
    by_cases hn : s.drifts desired remote = []
    · exact .inl ⟨by simp [hn], drifts_eq_nil_iff.1 hn⟩
    · refine .inr (.inr ⟨_, _, by simp [hf, hn], ?_, find?_forces_eq_none.1 hf, isUpdate_action rfl⟩)
      by_contra hno
      exact hn (drifts_eq_nil_iff.2 fun f hfs hd => hno ⟨f, hfs, hd⟩)

theorem action_ne_create (s : Schema) (desired remote m : FieldMap) : s.action desired remote ≠ .create m := by
  rcases s.action_cases desired remote with ⟨ha, _⟩ | ⟨_, ha, _⟩ | ⟨_, _, ha, _⟩ <;> simp [ha]

section
variable {s : Schema} {desired remote : FieldMap}

theorem FirstForced.exists_forced {reason : String} (h : s.FirstForced desired remote reason) :
    ∃ f ∈ s.fields, f.Forced desired remote := by
  obtain ⟨before, f, after, hfs, _, hforced, _⟩ := h
  exact ⟨f, by simp [hfs], hforced⟩

theorem IsUpdate.disjoint {changed accompanying : FieldMap}
    (h : s.IsUpdate desired remote changed accompanying) (n : String) :
    ¬ (changed.contains n = true ∧ accompanying.contains n = true) := by
  rintro ⟨hc, ha⟩
  obtain ⟨v, hv⟩ := Option.isSome_iff_exists.1 ha
  obtain ⟨_, hn, _⟩ := (h.accompanying_iff n v).1 hv
  simp [hn] at hc

theorem action_eq_noop_iff :
    s.action desired remote = .noop ↔ ∀ f ∈ s.fields, ¬ f.Drifted desired remote := by
  rcases s.action_cases desired remote with ⟨ha, hno⟩ | ⟨reason, ha, hfirst⟩ | ⟨_, _, ha, ⟨f, hf, hd⟩, _⟩
  · exact ⟨fun _ => hno, fun _ => ha⟩
  · obtain ⟨f, hf, hforced⟩ := hfirst.exists_forced
    simp only [ha, reduceCtorEq, false_iff]
    exact fun hno => hno f hf hforced.1
  · simp only [ha, reduceCtorEq, false_iff]
    exact fun hno => hno f hf hd

theorem exists_action_eq_replace_iff :
    (∃ reason m, s.action desired remote = .replace reason m) ↔ ∃ f ∈ s.fields, f.Forced desired remote := by
  rcases s.action_cases desired remote with ⟨ha, hno⟩ | ⟨reason, ha, hfirst⟩ | ⟨_, _, ha, _, hno, _⟩
  · simp only [ha, reduceCtorEq, exists_false, false_iff]
    exact fun ⟨f, hf, hforced⟩ => hno f hf hforced.1
  · exact ⟨fun _ => hfirst.exists_forced, fun _ => ⟨reason, desired, ha⟩⟩
  · simp only [ha, reduceCtorEq, exists_false, false_iff]
    exact fun ⟨f, hf, hforced⟩ => hno f hf hforced

theorem firstForced_of_action {reason : String} {m : FieldMap}
    (h : s.action desired remote = .replace reason m) : s.FirstForced desired remote reason ∧ m = desired := by
  rcases s.action_cases desired remote with ⟨ha, _⟩ | ⟨_, ha, hfirst⟩ | ⟨_, _, ha, _⟩
  · rw [ha] at h
    cases h
  · rw [ha] at h
    cases h
    exact ⟨hfirst, rfl⟩
  · rw [ha] at h
    cases h

theorem exists_action_eq_update_iff :
    (∃ changed accompanying, s.action desired remote = .update changed accompanying) ↔
      (∃ f ∈ s.fields, f.Drifted desired remote) ∧ ∀ f ∈ s.fields, ¬ f.Forced desired remote := by
  rcases s.action_cases desired remote with ⟨ha, hno⟩ | ⟨reason, ha, hfirst⟩ | ⟨c, acc, ha, hsome, hno, _⟩
  · simp only [ha, reduceCtorEq, exists_false, false_iff]
    exact fun ⟨⟨f, hf, hd⟩, _⟩ => hno f hf hd
  · obtain ⟨f, hf, hforced⟩ := hfirst.exists_forced
    simp only [ha, reduceCtorEq, exists_false, false_iff]
    exact fun ⟨_, hno⟩ => hno f hf hforced
  · exact ⟨fun _ => ⟨hsome, hno⟩, fun _ => ⟨c, acc, ha⟩⟩

theorem isUpdate_of_action {changed accompanying : FieldMap}
    (h : s.action desired remote = .update changed accompanying) :
    s.IsUpdate desired remote changed accompanying := by
  rcases s.action_cases desired remote with ⟨ha, _⟩ | ⟨_, ha, _⟩ | ⟨_, _, ha, _, _, hu⟩
  · rw [ha] at h
    cases h
  · rw [ha] at h
    cases h
  · rw [ha] at h
    cases h
    exact hu

end

end Schema

/-! ## Plans -/

namespace Plan

variable {s : Schema} {desired : FieldMap} {remote : Option FieldMap} {p : Plan}

theorem compute_eq_ok :
    compute s desired remote = .ok p ↔ ∃ d, s.resolveDesired desired = .ok d ∧
      ((remote = none ∧ p = single (.create d)) ∨
        ∃ reported r, remote = some reported ∧ s.resolveRemote reported = .ok r ∧
          Schema.stuck? d r s.fields = none ∧ p = single (s.action d r)) := by
  unfold compute
  rw [bind_eq_ok]
  refine exists_congr fun d => and_congr_right fun _ => ?_
  cases remote with
  | none => simp [pure, Except.pure, eq_comm]
  | some reported =>
    simp only [bind_eq_ok, reduceCtorEq, false_and, false_or, Option.some.injEq]
    constructor
    · rintro ⟨r, hr, h⟩
      cases hs : Schema.stuck? d r s.fields with
      | some f => simp [hs, throw, throwThe, MonadExceptOf.throw] at h
      | none =>
        simp only [hs, pure, Except.pure, Except.ok.injEq] at h
        exact ⟨reported, r, rfl, hr, hs, h.symm⟩
    · rintro ⟨_, r, rfl, hr, hs, rfl⟩
      exact ⟨r, hr, by simp [hs, pure, Except.pure]⟩

/-- A plan is a single action. -/
theorem exists_single (h : compute s desired remote = .ok p) : ∃ a, p = single a := by
  obtain ⟨d, _, ⟨_, hp⟩ | ⟨_, r, _, _, _, hp⟩⟩ := compute_eq_ok.1 h
  · exact ⟨_, hp⟩
  · exact ⟨_, hp⟩

/-- A resource is created exactly if there is none, and what is created, also in place of another, is the
resolved declaration. -/
theorem compute_single_cases {a : Action} {d : FieldMap} (h : compute s desired remote = .ok (single a))
    (hd : s.resolveDesired desired = .ok d) :
    (remote = none ∧ a = .create d) ∨
      ∃ reported r, remote = some reported ∧ s.resolveRemote reported = .ok r ∧
        (a = .noop ∨ (∃ reason, a = .replace reason d) ∨
          ∃ changed accompanying, a = .update changed accompanying) := by
  obtain ⟨d', hd', hcases⟩ := compute_eq_ok.1 h
  rw [hd] at hd'
  cases hd'
  rcases hcases with ⟨hn, hp⟩ | ⟨reported, r, hrem, hr, _, hp⟩
  · obtain rfl : a = .create d := by simpa [single] using congrArg Plan.actions hp
    exact .inl ⟨hn, rfl⟩
  · obtain rfl : a = s.action d r := by simpa [single] using congrArg Plan.actions hp
    refine .inr ⟨reported, r, hrem, hr, ?_⟩
    rcases s.action_cases d r with ⟨ha, _⟩ | ⟨reason, ha, _⟩ | ⟨changed, accompanying, ha, _⟩
    · exact .inl ha
    · exact .inr (.inl ⟨reason, ha⟩)
    · exact .inr (.inr ⟨changed, accompanying, ha⟩)

/-- **A plan is exact.** It is a single action: to create the declared resource if there is none;
otherwise nothing, a replacement or an update, according to what has drifted between the two resolved
sides and whether any of that forces a replacement. -/
theorem compute_exact (h : compute s desired remote = .ok p) :
    ∃ a d, p.actions = [a] ∧ s.resolveDesired desired = .ok d ∧
      ((∃ m, a = .create m) ↔ remote = none) ∧ (∀ m, a = .create m → m = d) ∧
      ∀ reported, remote = some reported → ∃ r, s.resolveRemote reported = .ok r ∧
        (a = .noop ↔ ∀ f ∈ s.fields, ¬ f.Drifted d r) ∧
        ((∃ reason m, a = .replace reason m) ↔ ∃ f ∈ s.fields, f.Forced d r) ∧
        (∀ reason m, a = .replace reason m → s.FirstForced d r reason ∧ m = d) ∧
        ((∃ changed accompanying, a = .update changed accompanying) ↔
          (∃ f ∈ s.fields, f.Drifted d r) ∧ ∀ f ∈ s.fields, ¬ f.Forced d r) ∧
        ∀ changed accompanying, a = .update changed accompanying →
          s.IsUpdate d r changed accompanying ∧
            ∀ n, ¬ (changed.contains n = true ∧ accompanying.contains n = true) := by
  obtain ⟨d, hd, ⟨rfl, rfl⟩ | ⟨reported, r, rfl, hr, _, rfl⟩⟩ := compute_eq_ok.1 h
  · refine ⟨.create d, d, rfl, hd, by simp, fun m hm => ?_, nofun⟩
    cases hm
    rfl
  refine ⟨s.action d r, d, rfl, hd, ?_, ?_, fun _ he => ?_⟩
  · have hno : ¬ ∃ m, s.action d r = .create m := fun ⟨m, hm⟩ => s.action_ne_create d r m hm
    simp [hno]
  · exact fun m hm => absurd hm (s.action_ne_create d r m)
  · cases he
    exact ⟨r, hr, Schema.action_eq_noop_iff, Schema.exists_action_eq_replace_iff,
      fun _ _ => Schema.firstForced_of_action, Schema.exists_action_eq_update_iff,
      fun _ _ hu => ⟨Schema.isUpdate_of_action hu, (Schema.isUpdate_of_action hu).disjoint⟩⟩

/-- A transit key that stops being exportable while it becomes deletable: the latch is the reason, not the
attribute before it. -/
theorem compute_exact_latch :
    ∃ (a : Action) (d r : FieldMap), Vault.TransitKey.schema.resolveDesired
        (.ofList [("backend", .string "t"), ("deletion_allowed", .bool true)]) = .ok d ∧
      Vault.TransitKey.schema.resolveRemote
        (.ofList [("backend", .string "/t/"), ("exportable", .bool true)]) = .ok r ∧
      a = .replace "exportable" d ∧ Vault.TransitKey.schema.FirstForced d r "exportable" := by
  have h : compute Vault.TransitKey.schema
      (.ofList [("backend", .string "t"), ("deletion_allowed", .bool true)])
      (some (.ofList [("backend", .string "/t/"), ("exportable", .bool true)])) =
        .ok (single (.replace "exportable" (.ofList [("allow_plaintext_backup", .bool false),
          ("backend", .string "t"), ("convergent_encryption", .bool false),
          ("deletion_allowed", .bool true), ("derived", .bool false), ("exportable", .bool false),
          ("min_decryption_version", .int 1), ("min_encryption_version", .int 0),
          ("type", .string "aes256-gcm96")]))) := by
    decide +kernel
  obtain ⟨a, d, ha, hd, _, _, hremote⟩ := compute_exact h
  obtain ⟨r, hr, _, _, hreplace, _⟩ := hremote _ rfl
  cases ha
  obtain ⟨hfirst, rfl⟩ := hreplace _ _ rfl
  exact ⟨_, _, r, hd, hr, rfl, hfirst⟩

end Plan

end Converge
