import Converge.Proofs.BuiltIn

/-!
# Which declarations a schema accepts

A declaration is checked in two passes over two orders: its names in their own order, and then its values in the
order of the schema. It is accepted exactly if every name is that of an attribute that can be configured, every
value in normal form has its type and passes its validator, and no normal form overflows; the error of any other is
that of the first name that cannot be configured or else of the first attribute with a fault.

A normal form that overflows is neither a value nor a text that the type check could report, so it is a fault of its
own (`FieldSpec.Fault.overflow`), of a declared value as of a default. Main theorem: `Schema.resolveDesired_exact`.
-/

namespace Converge

/-! ## One attribute -/

namespace FieldSpec

/-- The normal form that the attribute has in a declaration, of the declared value or else of the default, cannot be
computed. -/
def OverflowsIn (f : FieldSpec) (desired : FieldMap) : Prop :=
  (∃ v, desired.get? f.name = some v ∧ f.overflowsOn v = true) ∨
    (desired.get? f.name = none ∧ ∃ v, f.default = some v ∧ f.overflowsOn v = true)

/-- The value in normal form has the type of the attribute and passes its validator. -/
structure Admits (f : FieldSpec) (v : FieldValue) : Prop where
  typed : (f.normalize v).type = f.type
  passes : ∀ g, f.validator = some g → g (f.normalize v) = none

/-- What is wrong with an attribute in a declaration: its normal form overflows, or that of the declared value is
of another type, or the validator has something to say about it. -/
inductive Fault (f : FieldSpec) (desired : FieldMap) : FieldError → Prop
  | overflow (h : f.OverflowsIn desired) : f.Fault desired (.overflow f.name)
  | mistyped {v} (declared : desired.get? f.name = some v) (computes : f.overflowsOn v = false)
      (h : (f.normalize v).type ≠ f.type) :
    f.Fault desired (.invalid f.name
      ("expected " ++ f.type.name ++ ", got " ++ (f.normalize v).type.name ++ " " ++ (f.normalize v).display))
  | rejected {v g message} (declared : desired.get? f.name = some v) (computes : f.overflowsOn v = false)
      (typed : (f.normalize v).type = f.type) (validator : f.validator = some g)
      (h : g (f.normalize v) = some message) : f.Fault desired (.invalid f.name message)

variable {f : FieldSpec} {desired : FieldMap}

theorem defaultOverflows_iff : f.defaultOverflows = true ↔ ∃ v, f.default = some v ∧ f.overflowsOn v = true := by
  unfold defaultOverflows
  cases f.default <;> simp

theorem complaint_eq_none_iff {v : FieldValue} : f.complaint v = none ↔ ∀ g, f.validator = some g → g v = none := by
  unfold complaint
  cases f.validator <;> simp

theorem complaint_eq_some_iff {v : FieldValue} {message : String} :
    f.complaint v = some message ↔ ∃ g, f.validator = some g ∧ g v = some message :=
  Option.bind_eq_some_iff

/-- An attribute has an entry in a declaration exactly if its value is admitted and nothing overflows. -/
theorem exists_desiredEntry_iff : (∃ o, f.desiredEntry desired = .ok o) ↔
    (∀ v, desired.get? f.name = some v → f.Admits v) ∧ ¬ f.OverflowsIn desired := by
  unfold OverflowsIn
  simp only [desiredEntry_eq_ok, checkDesired_eq_ok, checkType_eq_ok, complaint_eq_none_iff,
    ← defaultOverflows_iff]
  cases hd : desired.get? f.name with
  | none => simp
  | some v =>
    simp only [reduceCtorEq, false_and, or_false, Option.some.injEq, forall_eq', exists_eq_left']
    constructor
    · rintro ⟨_, _, _, rfl, ⟨⟨ho, rfl, ht⟩, hc⟩, _⟩
      exact ⟨⟨ht, hc⟩, by simp [ho]⟩
    · rintro ⟨⟨ht, hc⟩, ho⟩
      exact ⟨_, v, _, rfl, ⟨⟨Bool.eq_false_iff.2 ho, rfl, ht⟩, hc⟩, rfl⟩

/-- An attribute without an entry in a declaration has a fault there. -/
theorem desiredEntry_eq_error_iff {e : FieldError} : f.desiredEntry desired = .error e ↔ f.Fault desired e := by
  constructor
  · intro h
    unfold desiredEntry at h
    cases hd : desired.get? f.name with
    | none =>
      simp only [hd] at h
      split at h
      next ho =>
        cases h
        exact .overflow (.inr ⟨hd, defaultOverflows_iff.1 ho⟩)
      next => cases h
    | some v =>
      simp only [hd, checkDesired, checkType] at h
      cases ho : f.overflowsOn v with
      | true =>
        simp only [ho, if_true] at h
        cases h
        exact .overflow (.inl ⟨v, hd, ho⟩)
      | false =>
        by_cases ht : (f.normalize v).type = f.type
        · cases hc : f.complaint (f.normalize v) with
          | none => simp [ho, ht, hc, bind, Except.bind, pure, Except.pure, Except.map] at h
          | some message =>
            simp only [ho, ht, hc, bind, Except.bind, Bool.false_eq_true, if_false, if_true] at h
            cases h
            obtain ⟨g, hg, hm⟩ := complaint_eq_some_iff.1 hc
            exact .rejected hd ho ht hg hm
        · simp only [ho, ht, bind, Except.bind, Bool.false_eq_true, if_false] at h
          cases h
          exact .mistyped hd ho ht
  · intro h
    cases h with
    | overflow h =>
      rcases h with ⟨v, hd, ho⟩ | ⟨hd, hdefault⟩
      · simp only [desiredEntry, hd, checkDesired, checkType, ho, if_true]
        rfl
      · simp only [desiredEntry, hd, defaultOverflows_iff.2 hdefault, if_true]
    | mistyped hd ho ht =>
      simp only [desiredEntry, hd, checkDesired, checkType, ho, ht, Bool.false_eq_true, if_false]
      rfl
    | rejected hd ho ht hg hm =>
      simp only [desiredEntry, hd, checkDesired, checkType, ho, ht, Bool.false_eq_true, if_false, if_true, bind,
        Except.bind, complaint_eq_some_iff.2 ⟨_, hg, hm⟩]
      rfl

end FieldSpec

/-! ## Names -/

namespace Schema

/-- The name is that of an attribute that is not the server's to set. -/
def Configurable (s : Schema) (n : String) : Prop := ∃ f ∈ s.fields, f.name = n ∧ f.mutability ≠ .computed

/-- What is wrong with a name that cannot be configured. -/
inductive NameFault (s : Schema) (n : String) : FieldError → Prop
  | undeclared (h : ∀ f ∈ s.fields, f.name ≠ n) : s.NameFault n (.unknown s.kind n)
  | computed {f} (declared : f ∈ s.fields) (name : f.name = n) (h : f.mutability = .computed) :
    s.NameFault n (.invalid n "field is computed by the API and cannot be configured")

variable {s : Schema} {desired : FieldMap} {n : String}

theorem field?_eq_none_iff : s.field? n = none ↔ ∀ f ∈ s.fields, f.name ≠ n := by
  simp [field?, List.find?_eq_none]

theorem field?_eq_some_iff {f : FieldSpec} : s.field? n = some f ↔ f ∈ s.fields ∧ f.name = n := by
  constructor
  · intro h
    have hname := List.find?_some (show s.fields.find? (fun f => f.name = n) = some f from h)
    exact ⟨List.mem_of_find?_eq_some h, of_decide_eq_true hname⟩
  · rintro ⟨hf, rfl⟩
    exact field?_of_mem hf

theorem nameError_eq_none_iff : s.nameError n = none ↔ s.Configurable n := by
  unfold nameError
  cases hf : s.field? n with
  | none =>
    refine iff_of_false nofun ?_
    rintro ⟨f, hmem, hname, _⟩
    exact field?_eq_none_iff.1 hf f hmem hname
  | some f =>
    obtain ⟨hmem, rfl⟩ := field?_eq_some_iff.1 hf
    simp only [FieldSpec.isComputed, decide_eq_true_eq]
    constructor
    · intro h
      exact ⟨f, hmem, rfl, fun hc => by simp [hc] at h⟩
    · rintro ⟨g, hg, hname, hc⟩
      rw [eq_of_name_eq hg hmem hname] at hc
      simp [hc]

theorem nameError_eq_some_iff {e : FieldError} : s.nameError n = some e ↔ s.NameFault n e := by
  unfold nameError
  cases hf : s.field? n with
  | none =>
    have hundeclared := field?_eq_none_iff.1 hf
    constructor
    · rintro ⟨⟩
      exact .undeclared hundeclared
    · intro h
      cases h with
      | undeclared => rfl
      | computed hmem hname => exact absurd hname (hundeclared _ hmem)
  | some f =>
    obtain ⟨hmem, rfl⟩ := field?_eq_some_iff.1 hf
    simp only [FieldSpec.isComputed, decide_eq_true_eq]
    constructor
    · intro h
      split at h
      next hc =>
        cases h
        exact .computed hmem rfl hc
      next => cases h
    · intro h
      cases h with
      | undeclared h => exact absurd rfl (h f hmem)
      | computed hg hname hc =>
        rw [eq_of_name_eq hg hmem hname] at hc
        simp [hc]

/-! ## The whole declaration -/

/-- Every name can be configured, and every declared value is admitted. -/
structure Valid (s : Schema) (desired : FieldMap) : Prop where
  names : ∀ n, (desired.get? n).isSome = true → s.Configurable n
  values : ∀ f ∈ s.fields, ∀ v, desired.get? f.name = some v → f.Admits v

/-- The map holds the declared values and the defaults of what is not declared, all in normal form, and nothing
else. -/
structure Filled (s : Schema) (desired m : FieldMap) : Prop where
  declared : ∀ f ∈ s.fields, ∀ v, desired.get? f.name = some v → m.get? f.name = some (f.normalize v)
  default : ∀ f ∈ s.fields, desired.get? f.name = none → m.get? f.name = f.default.map f.normalize
  only : ∀ n, (∀ f ∈ s.fields, f.name ≠ n) → m.get? n = none

/-- The name is the first of a declaration that cannot be configured. -/
structure FirstBadName (s : Schema) (desired : FieldMap) (n : String) : Prop where
  declared : (desired.get? n).isSome = true
  bad : ¬ s.Configurable n
  first : ∀ k, (desired.get? k).isSome = true → k < n → s.Configurable k

theorem names_iff : desired.keys.findSome? s.nameError = none ↔
    ∀ n, (desired.get? n).isSome = true → s.Configurable n := by
  simp only [List.findSome?_eq_none_iff, nameError_eq_none_iff, SortedMap.mem_keys]

theorem firstBadName_iff {e : FieldError} : desired.keys.findSome? s.nameError = some e ↔
    ∃ n, s.FirstBadName desired n ∧ s.NameFault n e := by
  have hsorted : desired.keys.Pairwise (· < ·) := List.pairwise_map.2 desired.sorted
  rw [List.findSome?_eq_some_iff]
  constructor
  · rintro ⟨before, n, after, hkeys, hn, hbefore⟩
    refine ⟨n, ⟨?_, ?_, fun k hk hlt => ?_⟩, nameError_eq_some_iff.1 hn⟩
    · exact SortedMap.mem_keys.1 (hkeys ▸ List.mem_append_cons_self)
    · rw [← nameError_eq_none_iff, hn]
      nofun
    · have hmem := SortedMap.mem_keys.2 hk
      rw [hkeys] at hmem hsorted
      rcases List.mem_append.1 hmem with hmem | hmem
      · exact nameError_eq_none_iff.1 (hbefore k hmem)
      · -- the names from this one on are no smaller
        have hle := List.pairwise_cons.1 (List.pairwise_append.1 hsorted).2.1
        rcases List.mem_cons.1 hmem with rfl | hmem
        · exact absurd hlt (String.lt_irrefl k)
        · exact absurd hlt (String.lt_asymm (hle.1 k hmem))
  · rintro ⟨n, ⟨hdeclared, _, hfirst⟩, hfault⟩
    obtain ⟨before, after, hkeys⟩ := List.append_of_mem (SortedMap.mem_keys.2 hdeclared)
    refine ⟨before, n, after, hkeys, nameError_eq_some_iff.2 hfault, fun k hk => nameError_eq_none_iff.2 ?_⟩
    have hmem : k ∈ desired.keys := hkeys ▸ List.mem_append_left _ hk
    rw [hkeys] at hsorted
    exact hfirst k (SortedMap.mem_keys.1 hmem) ((List.pairwise_append.1 hsorted).2.2 k hk n List.mem_cons_self)

/-- Everything has an entry in a declaration exactly if every value is admitted and nothing overflows. -/
theorem entries_iff : (∀ f ∈ s.fields, ∃ o, f.desiredEntry desired = .ok o) ↔
    (∀ f ∈ s.fields, ∀ v, desired.get? f.name = some v → f.Admits v) ∧ ∀ f ∈ s.fields, ¬ f.OverflowsIn desired := by
  simp only [FieldSpec.exists_desiredEntry_iff, forall_and]

theorem Collected.filled {m : FieldMap} (h : Collected (·.desiredEntry desired) s.fields m) :
    s.Filled desired m := by
  refine ⟨fun f hf v hv => ?_, fun f hf hnone => ?_, fun n hn => h.only n fun hmem => ?_⟩
  · rcases FieldSpec.desiredEntry_eq_ok.1 (h.entries f hf) with ⟨u, w, hu, hw, he⟩ | ⟨hnone, _⟩
    · obtain ⟨_, rfl, _⟩ := FieldSpec.checkType_eq_ok.1 (FieldSpec.checkDesired_eq_ok.1 hw).1
      rw [hv] at hu
      cases hu
      exact he
    · rw [hv] at hnone
      cases hnone
  · rcases FieldSpec.desiredEntry_eq_ok.1 (h.entries f hf) with ⟨u, w, hu, _⟩ | ⟨_, _, he⟩
    · rw [hnone] at hu
      cases hu
    · exact he
  · obtain ⟨f, hf, hname⟩ := List.mem_map.1 hmem
    exact hn f hf hname

theorem Filled.eq {m m' : FieldMap} (h : s.Filled desired m) (h' : s.Filled desired m') : m = m' := by
  refine SortedMap.ext_get? fun n => ?_
  by_cases hn : ∃ f ∈ s.fields, f.name = n
  · obtain ⟨f, hf, rfl⟩ := hn
    cases hd : desired.get? f.name with
    | some v => rw [h.declared f hf v hd, h'.declared f hf v hd]
    | none => rw [h.default f hf hd, h'.default f hf hd]
  · have hnone : ∀ f ∈ s.fields, f.name ≠ n := fun f hf hname => hn ⟨f, hf, hname⟩
    rw [h.only n hnone, h'.only n hnone]

theorem accepted_iff {d : FieldMap} : s.resolveDesired desired = .ok d ↔
    s.Valid desired ∧ (∀ f ∈ s.fields, ¬ f.OverflowsIn desired) ∧
      ∃ m, s.Filled desired m ∧ s.canonicalize m = d := by
  rw [resolveDesired_eq_ok, names_iff]
  constructor
  · rintro ⟨hnames, m, hm, hd⟩
    obtain ⟨hvalues, hcomputes⟩ := entries_iff.1 fun f hf => ⟨_, hm.entries f hf⟩
    exact ⟨⟨hnames, hvalues⟩, hcomputes, m, hm.filled, hd⟩
  · rintro ⟨⟨hnames, hvalues⟩, hcomputes, m, hm, hd⟩
    obtain ⟨m', hm'⟩ := exists_collected (entries_iff.2 ⟨hvalues, hcomputes⟩)
    exact ⟨hnames, m, hm.eq hm'.filled ▸ hm', hd⟩

theorem refused_iff {e : FieldError} : s.resolveDesired desired = .error e ↔
    (∃ n, s.FirstBadName desired n ∧ s.NameFault n e) ∨
      ((∀ n, (desired.get? n).isSome = true → s.Configurable n) ∧
        ∃ before f after, s.fields = before ++ f :: after ∧
          (∀ g ∈ before, (∀ v, desired.get? g.name = some v → g.Admits v) ∧ ¬ g.OverflowsIn desired) ∧
          f.Fault desired e) := by
  rw [resolveDesired_eq_error, firstBadName_iff, names_iff]
  simp only [FieldSpec.exists_desiredEntry_iff, FieldSpec.desiredEntry_eq_error_iff]

/-- **Which declarations are accepted, and what the others fail with.** A declaration is accepted exactly if every
name can be configured, every value in normal form has its type and passes its validator, and no normal form
overflows; it then resolves to the spelling of the map that holds the declared values and the defaults, all in normal
form, and nothing else. A name that cannot be configured is an error whatever the values are, and of several the
first counts; otherwise the error is that of the first attribute of the schema with a fault. -/
theorem resolveDesired_exact (s : Schema) (desired : FieldMap) :
    ((∃ d, s.resolveDesired desired = .ok d) ↔ s.Valid desired ∧ ∀ f ∈ s.fields, ¬ f.OverflowsIn desired) ∧
    (∀ d, s.resolveDesired desired = .ok d → ∃ m, s.Filled desired m ∧ s.canonicalize m = d) ∧
    (∀ e, s.resolveDesired desired = .error e ↔
      (∃ n, s.FirstBadName desired n ∧ s.NameFault n e) ∨
        ((∀ n, (desired.get? n).isSome = true → s.Configurable n) ∧
          ∃ before f after, s.fields = before ++ f :: after ∧
            (∀ g ∈ before, (∀ v, desired.get? g.name = some v → g.Admits v) ∧ ¬ g.OverflowsIn desired) ∧
            f.Fault desired e)) := by
  refine ⟨?_, fun d hd => (accepted_iff.1 hd).2.2, fun e => refused_iff⟩
  constructor
  · rintro ⟨d, hd⟩
    obtain ⟨hvalid, hcomputes, _⟩ := accepted_iff.1 hd
    exact ⟨hvalid, hcomputes⟩
  · rintro ⟨hvalid, hcomputes⟩
    obtain ⟨m, hm⟩ := exists_collected (entries_iff.2 ⟨hvalid.values, hcomputes⟩)
    exact ⟨_, accepted_iff.2 ⟨hvalid, hcomputes, m, hm.filled, rfl⟩⟩

/-- A lease of more seconds than the computation can hold is neither accepted nor reported as a value of the wrong
type, and neither is such a default of a declaration that is valid. -/
theorem resolveDesired_overflowing :
    (∀ n, ((SortedMap.ofList [("max_lease_ttl", FieldValue.string "18446744073709551615s 1000ms")]).get? n).isSome →
      Vault.Mount.schema.Configurable n) ∧
    Vault.Mount.schema.resolveDesired (.ofList [("max_lease_ttl", .string "18446744073709551615s 1000ms")]) =
      .error (.overflow "max_lease_ttl") ∧
    ∃ s : Schema, s.Valid SortedMap.empty ∧ s.resolveDesired SortedMap.empty = .error (.overflow "ttl") := by
  let ttl : FieldSpec := ⟨"ttl", .int, .mutable, some (.string "18446744073709551615s 1000ms"), none,
    some Normalizer.durationSeconds, false, false⟩
  let note : Schema := ⟨"note", [ttl], none, List.nodup_singleton _, by simp [ttl]⟩
  have hvalid : note.Valid SortedMap.empty :=
    ⟨fun n h => by simp at h, fun f _ v h => by simp at h⟩
  exact ⟨names_iff.1 (by decide +kernel), by decide +kernel, note, hvalid, by decide +kernel⟩

end Schema

end Converge
