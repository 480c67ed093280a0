import Converge.Vault.Wire
import Converge.Proofs.DurationText
import Converge.Proofs.Planning

/-!
# Fields that go over the wire and back

What is written into the body of a request is found in a reply that echoes it: every value comes back as
it was (`FieldValue.ofShape?_toJson`), except that a duration comes back as a text, which has the same
normal form (`FieldSpec.checkType_wireValue`). Bodies and replies are known by what is under each name
(`Vault.get?_writeFields`, `Vault.get?_readFields`), and a plan depends on a reported map only through the
entries of the attributes (`Plan.compute_congr`).
-/

namespace Converge

/-! ## Objects -/

namespace Json

theorem get?_ofMap (m : SortedMap Json) (n : String) : (Json.ofMap m).get? n = m.get? n :=
  SortedMap.lookup_reverse m.nodup_keys

/-- The members of an object; what is no object has none. -/
def members : Json → List (String × Json)
  | .object ms => ms
  | _ => []

/-- An object with the members of another written over its own. -/
def merge (a b : Json) : Json := .object (sortMembers (a.members ++ b.members))

theorem get?_eq_members (j : Json) (n : String) : j.get? n = (SortedMap.ofList j.members).get? n := by
  rw [SortedMap.get?_ofList]
  cases j <;> rfl

theorem get?_merge (a b : Json) (n : String) : (a.merge b).get? n = (b.get? n).or (a.get? n) := by
  have hlist : SortedMap.ofList (a.members ++ b.members) = (SortedMap.ofList a.members).insertAll b.members :=
    List.foldl_append
  have hmerge : a.merge b = Json.ofMap (SortedMap.ofList (a.members ++ b.members)) := rfl
  rw [hmerge, get?_ofMap, hlist, SortedMap.get?_insertAll, get?_eq_members a, get?_eq_members b,
    SortedMap.get?_ofList b.members]

end Json

theorem SortedMap.ofList_entries {β : Type} (m : SortedMap β) : SortedMap.ofList m.entries = m := by
  refine SortedMap.ext_get? fun n => ?_
  rw [SortedMap.get?_ofList, SortedMap.lookup_reverse m.nodup_keys]
  rfl

/-- A map that is filled name by name. -/
theorem SortedMap.get?_foldl {β : Type} {step : SortedMap β → String → SortedMap β} {g : String → Option β}
    (hstep : ∀ m name k, (step m name).get? k = if name = k then (g name).or (m.get? k) else m.get? k)
    (names : List String) (m : SortedMap β) (n : String) :
    (names.foldl step m).get? n = if n ∈ names then (g n).or (m.get? n) else m.get? n := by
  induction names generalizing m with
  | nil => simp
  | cons name names ih =>
    rw [List.foldl_cons, ih, hstep]
    by_cases hname : name = n
    · subst hname
      cases g name <;> simp
    · simp [hname, Ne.symm hname]

/-! ## Values -/

theorem int64?_toInt (i : Int64) : int64? i.toInt = some i := by
  have hlow := i.le_toInt
  have hhigh := i.toInt_lt
  rw [int64?, if_pos ⟨by omega, by omega⟩, Int64.ofInt_toInt]

namespace FieldValue

section
variable {f : Json → Option String} (hf : ∀ s, f (.string s) = some s)
include hf

theorem mapM_string (xs : List String) : (xs.map Json.string).mapM f = some xs := by
  induction xs with
  | nil => rfl
  | cons x xs ih =>
    rw [List.map_cons, List.mapM_cons, ih, hf]
    rfl

theorem pairs?_string (es : List (String × String)) :
    pairs? f (es.map fun e => (e.1, Json.string e.2)) = some es := by
  unfold pairs?
  induction es with
  | nil => rfl
  | cons e es ih =>
    rw [List.map_cons, List.mapM_cons, ih, hf]
    rfl

end

/-- **Every value comes back** from its JSON. -/
theorem ofShape?_toJson (v : FieldValue) : ofShape? v.toJson = some v := by
  cases v with
  | bool b => rfl
  | int i =>
    simp only [toJson, ofShape?, Number.toInt?, Option.bind_some, int64?_toInt, Option.map_some]
  | string s => rfl
  | list xs =>
    have hitems : (xs.map Json.string).mapM scalarText? = some xs := mapM_string (fun _ => rfl) xs
    simp only [toJson, Json.ofStrings, ofShape?, hitems, Option.map_some]
  | map m =>
    have hpairs : pairs? scalarText? (m.mapValues Json.string).entries = some m.entries :=
      pairs?_string (fun _ => rfl) m.entries
    simp only [toJson, Json.ofMap, ofShape?, hpairs, Option.map_some, SortedMap.ofList_entries]

/-- The strict decoder takes back what was written. -/
theorem ofJson?_toJson (v : FieldValue) : ofJson? v.toJson = some v := by
  cases v with
  | bool b => rfl
  | int i => simp only [toJson, ofJson?, Number.toInt?, Option.bind_some, int64?_toInt, Option.map_some]
  | string s => rfl
  | list xs =>
    have hitems : (xs.map Json.string).mapM Json.string? = some xs := mapM_string (fun _ => rfl) xs
    simp only [toJson, Json.ofStrings, ofJson?, hitems, Option.map_some]
  | map m =>
    have hpairs : pairs? Json.string? (m.mapValues Json.string).entries = some m.entries :=
      pairs?_string (fun _ => rfl) m.entries
    simp only [toJson, Json.ofMap, ofJson?, hpairs, Option.map_some, SortedMap.ofList_entries]

end FieldValue

/-- **A settled value comes back** as one of the same normal form. A duration does so if the attribute takes
durations and it is not negative. -/
theorem FieldSpec.checkType_wireValue {f : FieldSpec} {v : FieldValue} (hv : f.Settled v) (isDuration : Bool)
    (hd : isDuration = true → f.normalizer = some Normalizer.durationSeconds ∧ ∀ i, v = .int i → 0 ≤ i.toInt) :
    ∃ w, FieldValue.ofShape? (Vault.wireValue isDuration v) = some w ∧ f.checkType w = .ok v := by
  have hplain : f.checkType v = .ok v := checkType_eq_ok.2 ⟨hv.computes, hv.normal, hv.typed⟩
  cases isDuration with
  | false =>
    have hwire : Vault.wireValue false v = v.toJson := by cases v <;> rfl
    exact ⟨v, by rw [hwire, FieldValue.ofShape?_toJson], hplain⟩
  | true =>
    obtain ⟨hn, hpos⟩ := hd rfl
    cases v with
    | int i =>
      refine ⟨.string (Number.intText i.toInt ++ "s"), rfl, checkType_eq_ok.2 ⟨?_, ?_, hv.typed⟩⟩
      · simp only [overflowsOn, hn]
        exact Duration.overflows_intText (hpos i rfl)
      · simp only [normalize, hn, Normalizer.durationSeconds, Duration.seconds_intText (hpos i rfl)]
    | bool b => exact ⟨.bool b, rfl, hplain⟩
    | string s => exact ⟨.string s, rfl, hplain⟩
    | list xs => exact ⟨.list xs, FieldValue.ofShape?_toJson (.list xs), hplain⟩
    | map m => exact ⟨.map m, FieldValue.ofShape?_toJson (.map m), hplain⟩

/-- **What a server echoes of a settled value resolves to that value**, also where something else would stand in
for it. -/
theorem FieldSpec.remoteEntry_of_echo {f : FieldSpec} {v : FieldValue} (hv : f.Settled v) {isDuration : Bool}
    (hd : isDuration = true → f.normalizer = some Normalizer.durationSeconds ∧ ∀ i, v = .int i → 0 ≤ i.toInt)
    {reported : FieldMap} {instead : Option FieldValue}
    (hecho : reported.get? f.name = (FieldValue.ofShape? (Vault.wireValue isDuration v)).or instead) :
    f.remoteEntry reported = .ok (some v) := by
  obtain ⟨w, hw, hcheck⟩ := checkType_wireValue hv isDuration hd
  exact remoteEntry_eq_ok.2 (.inl ⟨w, v, by rw [hecho, hw, Option.some_or], hcheck, rfl⟩)

/-! ## Bodies and replies -/

namespace Vault

theorem get?_writeFields (fields : FieldMap) (names durations : List String) (n : String) :
    (writeFields fields names durations).get? n =
      if n ∈ names then (fields.get? n).map (wireValue (durations.contains n)) else none := by
  have hempty : (if n ∈ names then (fields.get? n).map (wireValue (durations.contains n)) else none) =
      if n ∈ names then ((fields.get? n).map (wireValue (durations.contains n))).or (SortedMap.empty.get? n)
        else SortedMap.empty.get? n := by
    simp only [SortedMap.get?_empty, Option.or_none]
  rw [hempty]
  refine SortedMap.get?_foldl (g := fun name => (fields.get? name).map (wireValue (durations.contains name)))
    (fun body name k => ?_) names SortedMap.empty n
  cases fields.get? name with
  | none => simp
  | some v => by_cases hk : name = k <;> simp [hk]

theorem get?_readFields (source : Json) (names : List String) (target : FieldMap) (n : String) :
    (readFields source names target).get? n =
      if n ∈ names then ((source.get? n).bind FieldValue.ofShape?).or (target.get? n) else target.get? n := by
  refine SortedMap.get?_foldl (g := fun name => (source.get? name).bind FieldValue.ofShape?)
    (fun m name k => ?_) names target n
  cases (source.get? name).bind FieldValue.ofShape? with
  | none => simp
  | some v => by_cases hk : name = k <;> simp [hk]

/-- What is wrapped into a reply is what the reply is about. -/
theorem responseData_data {data : Json} (h : data.isObject = true) : responseData (.object [("data", data)]) = data := by
  simp [responseData, Json.get?, SortedMap.lookup, h]

end Vault

/-! ## Plans -/

theorem Schema.collect_congr {entry entry' : FieldSpec → Except FieldError (Option FieldValue)}
    {fs : List FieldSpec} (h : ∀ f ∈ fs, entry f = entry' f) (m : FieldMap) :
    collect entry fs m = collect entry' fs m := by
  induction fs generalizing m with
  | nil => rfl
  | cons f fs ih =>
    obtain ⟨hf, hfs⟩ := List.forall_mem_cons.1 h
    simp only [collect, hf, ih hfs]

namespace Plan

variable {s : Schema} {a b : FieldMap}

theorem compute_eq_of_resolveRemote (h : s.resolveRemote a = s.resolveRemote b) (desired : FieldMap) :
    compute s desired (some a) = compute s desired (some b) := by
  simp only [compute, h]

theorem compute_congr (h : ∀ f ∈ s.fields, f.remoteEntry a = f.remoteEntry b)
    (desired : FieldMap) : compute s desired (some a) = compute s desired (some b) :=
  compute_eq_of_resolveRemote (by simp only [Schema.resolveRemote, Schema.collect_congr h]) desired

end Plan

end Converge
