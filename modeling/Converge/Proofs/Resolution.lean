import Converge.Schema.Resolve
import Converge.Proofs.NormalForm
import Mathlib.Data.List.Nodup

/-!
# Resolution

Resolving a map looks at each attribute of the schema by itself: the map `collect` gives holds exactly
the entry of every attribute (`Schema.collect_eq_ok_iff`), so it is known by what the entries are. Over
a schema with the library's normalizers every value it holds is *settled*: resolving it again changes
nothing (`Schema.settled_of_desired`, `Schema.resolveRemote_of_settled`).
-/

namespace Converge

/-! ## Results -/

theorem bind_eq_ok {ε α β : Type} {x : Except ε α} {g : α → Except ε β} {b : β} :
    (x >>= g) = .ok b ↔ ∃ a, x = .ok a ∧ g a = .ok b := by
  cases x with
  | error e => exact ⟨nofun, fun ⟨_, h, _⟩ => nomatch h⟩
  | ok a => exact ⟨fun h => ⟨a, rfl, h⟩, fun ⟨_, h, hb⟩ => by cases h; exact hb⟩

theorem map_eq_ok {ε α β : Type} {x : Except ε α} {g : α → β} {b : β} :
    x.map g = .ok b ↔ ∃ a, x = .ok a ∧ g a = b := by
  cases x with
  | error e => exact ⟨nofun, fun ⟨_, h, _⟩ => nomatch h⟩
  | ok a => simp [Except.map]

theorem map_eq_error {ε α β : Type} {x : Except ε α} {g : α → β} {e : ε} : x.map g = .error e ↔ x = .error e := by
  cases x <;> simp [Except.map]

theorem map_some_eq_ok {ε α : Type} {x : Except ε α} {o : Option α} :
    x.map some = .ok o ↔ ∃ a, x = .ok a ∧ o = some a := by
  rw [map_eq_ok]
  exact exists_congr fun a => and_congr_right fun _ => eq_comm

/-! ## One attribute -/

namespace FieldSpec

/-- A value as resolution leaves it. -/
structure Settled (f : FieldSpec) (v : FieldValue) : Prop where
  computes : f.overflowsOn v = false
  normal : f.normalize v = v
  typed : v.type = f.type

theorem checkType_eq_ok {f : FieldSpec} {v w : FieldValue} :
    f.checkType v = .ok w ↔ f.overflowsOn v = false ∧ f.normalize v = w ∧ w.type = f.type := by
  unfold checkType
  cases ho : f.overflowsOn v with
  | true => simp
  | false =>
    by_cases ht : (f.normalize v).type = f.type
    · simp only [Bool.false_eq_true, if_false, ht, if_true, Except.ok.injEq, true_and]
      constructor
      · rintro rfl
        exact ⟨rfl, ht⟩
      · exact fun h => h.1
    · simp only [Bool.false_eq_true, if_false, ht, true_and]
      constructor
      · nofun
      · rintro ⟨rfl, h⟩
        exact absurd h ht

theorem checkDesired_eq_ok {f : FieldSpec} {v w : FieldValue} :
    f.checkDesired v = .ok w ↔ f.checkType v = .ok w ∧ f.complaint w = none := by
  unfold checkDesired
  rw [bind_eq_ok]
  constructor
  · rintro ⟨u, hu, h⟩
    cases hc : f.complaint u with
    | some m => simp [hc] at h
    | none =>
      simp only [hc] at h
      cases h
      exact ⟨hu, hc⟩
  · rintro ⟨hw, hc⟩
    exact ⟨w, hw, by simp only [hc]; rfl⟩

theorem desiredEntry_eq_ok {f : FieldSpec} {desired : FieldMap} {o : Option FieldValue} :
    f.desiredEntry desired = .ok o ↔
      (∃ v w, desired.get? f.name = some v ∧ f.checkDesired v = .ok w ∧ o = some w) ∨
        (desired.get? f.name = none ∧ f.defaultOverflows = false ∧ o = f.defaultValue) := by
  unfold desiredEntry
  cases hd : desired.get? f.name with
  | some v => simp [map_some_eq_ok]
  | none =>
    cases ho : f.defaultOverflows with
    | true => simp
    | false => simp [eq_comm]

theorem remoteEntry_eq_ok {f : FieldSpec} {remote : FieldMap} {o : Option FieldValue} :
    f.remoteEntry remote = .ok o ↔
      (∃ v w, remote.get? f.name = some v ∧ f.checkType v = .ok w ∧ o = some w) ∨
        (remote.get? f.name = none ∧ o = none) := by
  unfold remoteEntry
  cases hr : remote.get? f.name with
  | some v => simp [map_some_eq_ok]
  | none => simp [eq_comm]

theorem Settled.remoteEntry {f : FieldSpec} {remote : FieldMap} {v : FieldValue} (hv : f.Settled v)
    (hr : remote.get? f.name = some v) : f.remoteEntry remote = .ok (some v) :=
  remoteEntry_eq_ok.2 (.inl ⟨v, v, hr, checkType_eq_ok.2 ⟨hv.computes, hv.normal, hv.typed⟩, rfl⟩)

/-- The rules of an attribute are the library's, and its default has its type. -/
structure Regular (f : FieldSpec) : Prop where
  normalizer : ∀ n, f.normalizer = some n → n ∈ Normalizer.library
  default : ∀ v, f.default = some v → (f.normalize v).type = f.type

namespace Regular

variable {f : FieldSpec} (hf : f.Regular)
include hf

theorem normalize_normalize (v : FieldValue) : f.normalize (f.normalize v) = f.normalize v := by
  unfold normalize
  cases h : f.normalizer with
  | none => rfl
  | some n => exact (Normalizer.lawful_of_mem_library (hf.normalizer n h)).form_form v

theorem overflowsOn_normalize {v : FieldValue} (hv : f.overflowsOn v = false) :
    f.overflowsOn (f.normalize v) = false := by
  unfold overflowsOn normalize at *
  cases h : f.normalizer with
  | none => rfl
  | some n =>
    simp only [h] at hv
    have hl := (Normalizer.lawful_of_mem_library (hf.normalizer n h)).overflows_form v
    exact Bool.eq_false_iff.2 fun ho => by simp [hl ho] at hv

theorem settled_normalize {v : FieldValue} (hv : f.overflowsOn v = false)
    (ht : (f.normalize v).type = f.type) : f.Settled (f.normalize v) :=
  ⟨hf.overflowsOn_normalize hv, hf.normalize_normalize v, ht⟩

theorem settled_of_checkType {v w : FieldValue} (h : f.checkType v = .ok w) : f.Settled w := by
  obtain ⟨ho, rfl, ht⟩ := checkType_eq_ok.1 h
  exact hf.settled_normalize ho ht

theorem settled_of_defaultValue {v : FieldValue} (ho : f.defaultOverflows = false)
    (hv : f.defaultValue = some v) : f.Settled v := by
  obtain ⟨u, hu, rfl⟩ := Option.map_eq_some_iff.1 hv
  simp only [defaultOverflows, hu] at ho
  exact hf.settled_normalize ho (hf.default u hu)

theorem settled_of_desiredEntry {desired : FieldMap} {v : FieldValue}
    (h : f.desiredEntry desired = .ok (some v)) : f.Settled v := by
  rcases desiredEntry_eq_ok.1 h with ⟨u, w, _, hw, he⟩ | ⟨_, ho, hv⟩
  · cases he
    exact hf.settled_of_checkType (checkDesired_eq_ok.1 hw).1
  · exact hf.settled_of_defaultValue ho hv.symm

end Regular

end FieldSpec

/-! ## All attributes -/

namespace Schema

/-- The map holds the entry of each of the attributes and nothing else. -/
structure Collected (entry : FieldSpec → Except FieldError (Option FieldValue)) (fs : List FieldSpec)
    (m : FieldMap) : Prop where
  entries : ∀ f ∈ fs, entry f = .ok (m.get? f.name)
  only : ∀ n, n ∉ fs.map (·.name) → m.get? n = none

section
variable {entry : FieldSpec → Except FieldError (Option FieldValue)}

theorem collect_cons {f : FieldSpec} {fs : List FieldSpec} {acc m : FieldMap} :
    collect entry (f :: fs) acc = .ok m ↔
      (∃ v, entry f = .ok (some v) ∧ collect entry fs (acc.insert f.name v) = .ok m) ∨
        (entry f = .ok none ∧ collect entry fs acc = .ok m) := by
  simp only [collect]
  rw [bind_eq_ok]
  constructor
  · rintro ⟨o, ho, h⟩
    cases o with
    | some v => exact .inl ⟨v, ho, h⟩
    | none => exact .inr ⟨ho, h⟩
  · rintro (⟨v, ho, h⟩ | ⟨ho, h⟩)
    · exact ⟨some v, ho, h⟩
    · exact ⟨none, ho, h⟩

/-- The invariant of `collect`: what is left to do puts an entry under each name that is still free. -/
theorem collect_eq_ok_iff_of_free {fs : List FieldSpec} {acc m : FieldMap}
    (hn : (fs.map (·.name)).Nodup) (hfree : ∀ f ∈ fs, acc.get? f.name = none) :
    collect entry fs acc = .ok m ↔
      (∀ f ∈ fs, entry f = .ok (m.get? f.name)) ∧
        ∀ n, n ∉ fs.map (·.name) → m.get? n = acc.get? n := by
  induction fs generalizing acc with
  | nil =>
    simp only [collect, Except.ok.injEq, List.not_mem_nil, false_imp_iff, implies_true, List.map_nil,
      not_false_eq_true, forall_true_left, true_and]
    exact ⟨fun h n => by rw [h], fun h => (SortedMap.ext_get? h).symm⟩
  | cons f fs ih =>
    simp only [List.map_cons, List.nodup_cons] at hn
    obtain ⟨hf, hn⟩ := hn
    have hfree' : ∀ g ∈ fs, acc.get? g.name = none := fun g hg => hfree g (List.mem_cons_of_mem _ hg)
    have hne : ∀ g ∈ fs, f.name ≠ g.name := fun g hg he => hf (he ▸ List.mem_map_of_mem hg)
    rw [collect_cons, ih hn hfree']
    simp only [List.mem_cons, forall_eq_or_imp, List.map_cons, not_or]
    constructor
    · rintro (⟨v, hv, h⟩ | ⟨hv, h, hrest⟩)
      · rw [ih hn fun g hg => by simp [hne g hg, hfree' g hg]] at h
        obtain ⟨h, hrest⟩ := h
        have hm := hrest f.name hf
        simp only [SortedMap.get?_insert, if_true] at hm
        refine ⟨⟨by rw [hv, hm], h⟩, fun n hn' => ?_⟩
        simpa [Ne.symm hn'.1] using hrest n hn'.2
      · have hm := hrest f.name hf
        rw [hfree f List.mem_cons_self] at hm
        exact ⟨⟨by rw [hv, hm], h⟩, fun n hn' => hrest n hn'.2⟩
    · rintro ⟨⟨hv, h⟩, hrest⟩
      cases hm : m.get? f.name with
      | some v =>
        refine .inl ⟨v, by rw [hv, hm], ?_⟩
        rw [ih hn fun g hg => by simp [hne g hg, hfree' g hg]]
        refine ⟨h, fun n hn' => ?_⟩
        by_cases hfn : f.name = n
        · subst hfn
          simp [hm]
        · simpa [hfn] using hrest n ⟨fun he => hfn he.symm, hn'⟩
      | none =>
        refine .inr ⟨by rw [hv, hm], h, fun n hn' => ?_⟩
        by_cases hfn : f.name = n
        · subst hfn
          rw [hm, hfree f List.mem_cons_self]
        · exact hrest n ⟨fun he => hfn he.symm, hn'⟩

/-- **What `collect` gives**: the entry of every attribute, under its name. -/
theorem collect_eq_ok_iff {s : Schema} {m : FieldMap} :
    collect entry s.fields SortedMap.empty = .ok m ↔ Collected entry s.fields m := by
  rw [collect_eq_ok_iff_of_free s.names_nodup fun _ _ => SortedMap.get?_empty _]
  exact ⟨fun h => ⟨h.1, h.2⟩, fun h => ⟨h.entries, h.only⟩⟩

/-- **What `collect` fails with**: the error of the first attribute that has no entry. -/
theorem collect_eq_error_iff {fs : List FieldSpec} (acc : FieldMap) {e : FieldError} :
    collect entry fs acc = .error e ↔ ∃ before f after, fs = before ++ f :: after ∧
      (∀ g ∈ before, ∃ o, entry g = .ok o) ∧ entry f = .error e := by
  induction fs generalizing acc with
  | nil => simp [collect]
  | cons f fs ih =>
    simp only [collect, List.cons_eq_append_iff]
    cases hf : entry f with
    | error e' =>
      constructor
      · rintro ⟨⟩
        exact ⟨[], f, fs, .inl ⟨rfl, rfl⟩, nofun, hf⟩
      · rintro ⟨before, g, after, ⟨rfl, hcons⟩ | ⟨tail, rfl, _⟩, hbefore, hg⟩
        · obtain ⟨rfl, rfl⟩ := List.cons.inj hcons
          rw [hf] at hg
          cases hg
          rfl
        · obtain ⟨o, ho⟩ := hbefore f List.mem_cons_self
          rw [hf] at ho
          cases ho
    | ok o =>
      have hrest : ∀ acc', collect entry fs acc' = .error e ↔ ∃ before g after,
          ((before = [] ∧ g :: after = f :: fs) ∨ ∃ tail, before = f :: tail ∧ fs = tail ++ g :: after) ∧
            (∀ g ∈ before, ∃ o, entry g = .ok o) ∧ entry g = .error e := by
        intro acc'
        rw [ih]
        constructor
        · rintro ⟨before, g, after, rfl, hbefore, hg⟩
          refine ⟨f :: before, g, after, .inr ⟨before, rfl, rfl⟩, ?_, hg⟩
          exact List.forall_mem_cons.2 ⟨⟨o, hf⟩, hbefore⟩
        · rintro ⟨before, g, after, ⟨rfl, hcons⟩ | ⟨tail, rfl, hfs⟩, hbefore, hg⟩
          · obtain ⟨rfl, rfl⟩ := List.cons.inj hcons
            rw [hf] at hg
            cases hg
          · exact ⟨tail, g, after, hfs, (List.forall_mem_cons.1 hbefore).2, hg⟩
      cases o with
      | some v => exact hrest _
      | none => exact hrest _

/-- If every attribute has an entry, the entries can be collected. -/
theorem exists_collected {s : Schema} (h : ∀ f ∈ s.fields, ∃ o, entry f = .ok o) :
    ∃ m, Collected entry s.fields m := by
  have hcollect : ∀ (fs : List FieldSpec) (acc : FieldMap), (∀ f ∈ fs, ∃ o, entry f = .ok o) →
      ∃ m, collect entry fs acc = .ok m := by
    intro fs
    induction fs with
    | nil => exact fun acc _ => ⟨acc, rfl⟩
    | cons f fs ih =>
      intro acc hfs
      obtain ⟨o, ho⟩ := hfs f List.mem_cons_self
      have hrest : ∀ g ∈ fs, ∃ o, entry g = .ok o := fun g hg => hfs g (List.mem_cons_of_mem _ hg)
      cases o with
      | some v =>
        obtain ⟨m, hm⟩ := ih (acc.insert f.name v) hrest
        exact ⟨m, collect_cons.2 (.inl ⟨v, ho, hm⟩)⟩
      | none =>
        obtain ⟨m, hm⟩ := ih acc hrest
        exact ⟨m, collect_cons.2 (.inr ⟨ho, hm⟩)⟩
  obtain ⟨m, hm⟩ := hcollect s.fields SortedMap.empty h
  exact ⟨m, collect_eq_ok_iff.1 hm⟩

end

theorem resolveDesired_eq_ok {s : Schema} {desired d : FieldMap} :
    s.resolveDesired desired = .ok d ↔ desired.keys.findSome? s.nameError = none ∧
      ∃ m, Collected (·.desiredEntry desired) s.fields m ∧ s.canonicalize m = d := by
  unfold resolveDesired
  cases hk : desired.keys.findSome? s.nameError with
  | some e => simp
  | none =>
    rw [bind_eq_ok]
    simp only [collect_eq_ok_iff, true_and]
    exact exists_congr fun m => and_congr_right fun _ => by simp [pure, Except.pure]

theorem resolveDesired_eq_error {s : Schema} {desired : FieldMap} {e : FieldError} :
    s.resolveDesired desired = .error e ↔ desired.keys.findSome? s.nameError = some e ∨
      (desired.keys.findSome? s.nameError = none ∧ ∃ before f after, s.fields = before ++ f :: after ∧
        (∀ g ∈ before, ∃ o, g.desiredEntry desired = .ok o) ∧ f.desiredEntry desired = .error e) := by
  rw [← collect_eq_error_iff SortedMap.empty, resolveDesired]
  cases desired.keys.findSome? s.nameError with
  | some e' => simp
  | none =>
    cases collect (·.desiredEntry desired) s.fields SortedMap.empty <;> simp [bind, Except.bind, pure, Except.pure]

theorem resolveRemote_eq_ok {s : Schema} {remote r : FieldMap} :
    s.resolveRemote remote = .ok r ↔
      ∃ m, Collected (·.remoteEntry remote) s.fields m ∧ s.canonicalize m = r := by
  unfold resolveRemote
  rw [bind_eq_ok]
  simp only [collect_eq_ok_iff]
  exact exists_congr fun m => and_congr_right fun _ => by simp [pure, Except.pure]

theorem resolveRemote_eq_error {s : Schema} {remote : FieldMap} {e : FieldError} :
    s.resolveRemote remote = .error e ↔ ∃ before f after, s.fields = before ++ f :: after ∧
      (∀ g ∈ before, ∃ o, g.remoteEntry remote = .ok o) ∧ f.remoteEntry remote = .error e := by
  rw [← collect_eq_error_iff SortedMap.empty, resolveRemote]
  cases collect (·.remoteEntry remote) s.fields SortedMap.empty <;> simp [bind, Except.bind, pure, Except.pure]

theorem canonicalize_eq_self {s : Schema} (hc : s.canonicalizer = none) (m : FieldMap) :
    s.canonicalize m = m := by
  simp [canonicalize, hc]

/-- The rules of every attribute are the library's, and every default has the type of its attribute. -/
def Regular (s : Schema) : Prop := ∀ f ∈ s.fields, f.Regular

/-- Every value of the map is settled, and it has declared names only. -/
structure Settled (s : Schema) (m : FieldMap) : Prop where
  values : ∀ f ∈ s.fields, ∀ v, m.get? f.name = some v → f.Settled v
  only : ∀ n, n ∉ s.fields.map (·.name) → m.get? n = none

/-- A text attribute that is missing after the resolution is not declared. -/
theorem Collected.get?_eq_none {fs : List FieldSpec} {desired m : FieldMap}
    (hm : Collected (·.desiredEntry desired) fs m) {f : FieldSpec} (hf : f ∈ fs) (ht : f.type = .string)
    (hs : m.string? f.name = none) : desired.get? f.name = none := by
  rcases FieldSpec.desiredEntry_eq_ok.1 (hm.entries f hf) with ⟨v, w, _, hw, he⟩ | ⟨hn, _⟩
  · obtain ⟨_, _, htype⟩ := FieldSpec.checkType_eq_ok.1 (FieldSpec.checkDesired_eq_ok.1 hw).1
    rw [ht] at htype
    cases w <;> simp [FieldValue.type] at htype
    simp [FieldMap.string?, he, FieldValue.string?] at hs
  · exact hn

/-- A reported map resolves to the normal forms of what is reported, each of the type of its attribute. -/
theorem Collected.get?_of_remote {fs : List FieldSpec} {remote m : FieldMap}
    (hm : Collected (·.remoteEntry remote) fs m) {f : FieldSpec} (hf : f ∈ fs) :
    m.get? f.name = (remote.get? f.name).map f.normalize ∧ ∀ v, m.get? f.name = some v → v.type = f.type := by
  rcases FieldSpec.remoteEntry_eq_ok.1 (hm.entries f hf) with ⟨v, w, hv, hcheck, hw⟩ | ⟨hn, hw⟩
  · obtain ⟨_, rfl, ht⟩ := FieldSpec.checkType_eq_ok.1 hcheck
    rw [hv, hw]
    refine ⟨rfl, ?_⟩
    rintro _ ⟨⟩
    exact ht
  · rw [hn, hw]
    exact ⟨rfl, nofun⟩

/-- A resolved declaration has an entry of every attribute that is declared or has a default. -/
theorem Collected.isSome_get?_iff {fs : List FieldSpec} {desired m : FieldMap}
    (hm : Collected (·.desiredEntry desired) fs m) {f : FieldSpec} (hf : f ∈ fs) :
    (m.get? f.name).isSome = true ↔ (desired.get? f.name).isSome = true ∨ f.default.isSome = true := by
  rcases FieldSpec.desiredEntry_eq_ok.1 (hm.entries f hf) with ⟨v, w, hv, _, hw⟩ | ⟨hn, _, hw⟩
  · simp [hv, hw]
  · simp [hn, hw, FieldSpec.defaultValue]

/-- An attribute is found under its name. -/
theorem field?_of_mem {s : Schema} {f : FieldSpec} (hf : f ∈ s.fields) : s.field? f.name = some f := by
  unfold field?
  have hn := s.names_nodup
  generalize s.fields = fs at hf hn
  induction fs with
  | nil => cases hf
  | cons g gs ih =>
    simp only [List.map_cons, List.nodup_cons] at hn
    rcases List.mem_cons.1 hf with rfl | hf
    · simp
    · have hne : g.name ≠ f.name := fun he => hn.1 (he ▸ List.mem_map_of_mem hf)
      simp [hne, ih hf hn.2]

theorem eq_of_name_eq {s : Schema} {f g : FieldSpec} (hf : f ∈ s.fields) (hg : g ∈ s.fields)
    (h : f.name = g.name) : f = g := by
  have hfound := field?_of_mem hf
  rw [h, field?_of_mem hg] at hfound
  exact (Option.some.inj hfound).symm

/-- A declaration that passes the check of its names configures no computed attribute. -/
theorem get?_eq_none_of_computed {s : Schema} {desired : FieldMap} (h : desired.keys.findSome? s.nameError = none)
    {f : FieldSpec} (hf : f ∈ s.fields) (hc : f.isComputed = true) : desired.get? f.name = none := by
  cases hv : desired.get? f.name with
  | none => rfl
  | some v =>
    have hkey : f.name ∈ desired.keys := SortedMap.mem_keys.2 (by simp [hv])
    have herror := List.findSome?_eq_none_iff.1 h f.name hkey
    simp [nameError, field?_of_mem hf, hc] at herror

theorem settled_of_desired {s : Schema} (hs : s.Regular) {desired m : FieldMap}
    (h : Collected (·.desiredEntry desired) s.fields m) : s.Settled m :=
  ⟨fun f hf _ hv => (hs f hf).settled_of_desiredEntry (hv ▸ h.entries f hf), h.only⟩

theorem settled_of_remote {s : Schema} (hs : s.Regular) {remote m : FieldMap}
    (h : Collected (·.remoteEntry remote) s.fields m) : s.Settled m := by
  refine ⟨fun f hf v hv => ?_, h.only⟩
  rcases FieldSpec.remoteEntry_eq_ok.1 (hv ▸ h.entries f hf) with ⟨_, _, _, hcheck, he⟩ | ⟨_, hnone⟩
  · cases he
    exact (hs f hf).settled_of_checkType hcheck
  · cases hnone

/-- What is reported of a settled map are its own entries. -/
theorem Settled.collected {s : Schema} {m : FieldMap} (hm : s.Settled m) :
    Collected (·.remoteEntry m) s.fields m := by
  refine ⟨fun f hf => ?_, hm.only⟩
  cases hv : m.get? f.name with
  | some v => exact (hm.values f hf v hv).remoteEntry hv
  | none => exact FieldSpec.remoteEntry_eq_ok.2 (.inr ⟨hv, rfl⟩)

/-- A settled map resolves to its one spelling. -/
theorem resolveRemote_of_settled {s : Schema} {m : FieldMap} (hm : s.Settled m) :
    s.resolveRemote m = .ok (s.canonicalize m) :=
  resolveRemote_eq_ok.2 ⟨m, hm.collected, rfl⟩

end Schema

end Converge
