import Converge.Vault.Mount.Wire
import Converge.Proofs.Convergence
import Converge.Proofs.Wire

/-!
# Mounts on the wire

A mount is written into one body and read back out of a reply, where some attributes stand at the top level
and some in the object `config`. A server that reports what it was sent reports a mount that is in line with
its declaration, whatever else it reports along with that (`Vault.Mount.remoteEntry_of_widens`), and it does
not matter in which of the two spellings it reports a key-value engine of version 2
(`Vault.Mount.foldVersionTwo_versioned`). Main theorem: `Vault.Mount.echo_converges`.
-/

namespace Converge.Vault.Mount

/-! ## Attributes -/

/-- How the attributes are spread over the id and the body: the path, what the server sets, the top level, and
the object inside. -/
theorem places : ∀ f ∈ fields, f.name = "path" ∨ f.name = "accessor" ∨
    (f.name ∈ createTopLevel ∧ f.name ∈ topLevel ∧ f.name ∉ config) ∨ f.name ∈ config := by
  decide +kernel

/-- The path is read from nowhere, and the accessor is not written. -/
theorem path_accessor_apart : "path" ∉ config ∧ "path" ∉ topLevel ∧ "accessor" ∉ config ∧
    "accessor" ∈ topLevel ∧ "accessor" ∉ createTopLevel := by
  decide +kernel

/-- The name of the object inside is no attribute. -/
theorem config_not_mem_names : "config" ∉ schema.fields.map (·.name) := by decide +kernel

theorem disjoint_config_topLevel : ∀ n ∈ config, n ∉ topLevel := by decide +kernel

theorem normalizer_of_duration {f : FieldSpec} (hf : f ∈ fields) (hd : durations.contains f.name = true) :
    f.normalizer = some Normalizer.durationSeconds := by
  have hall : ∀ f ∈ fields, f.name = "default_lease_ttl" ∨ f.name = "max_lease_ttl" →
      f.normalizer = some Normalizer.durationSeconds := by
    simp [fields]
  exact hall f hf (by simpa [durations] using hd)

/-! ## Replies -/

/-- The attributes that a mount object holds, and its path. -/
def listed (path : String) (mount : Json) : FieldMap :=
  let top := readFields mount topLevel (SortedMap.empty.insert "path" (.string path))
  match mount.get? "config" with
  | some inner => readFields inner config top
  | none => top

theorem get?_listed (path : String) (mount : Json) (n : String) :
    (listed path mount).get? n =
      if n ∈ config then ((mount.get? "config").bind (·.get? n)).bind FieldValue.ofShape?
      else if n ∈ topLevel then (mount.get? n).bind FieldValue.ofShape?
      else if n = "path" then some (.string path) else none := by
  obtain ⟨hpc, hpt, _⟩ := path_accessor_apart
  have htop : (readFields mount topLevel (SortedMap.empty.insert "path" (.string path))).get? n =
      if n ∈ topLevel then (mount.get? n).bind FieldValue.ofShape?
      else if n = "path" then some (.string path) else none := by
    rw [get?_readFields]
    by_cases hn : n ∈ topLevel
    · have hne : "path" ≠ n := fun h => hpt (h ▸ hn)
      simp [hn, hne]
    · simp [hn, eq_comm (a := n)]
  unfold listed
  by_cases hn : n ∈ config
  · have hne : n ≠ "path" := fun h => hpc (h ▸ hn)
    have hnt := disjoint_config_topLevel n hn
    cases mount.get? "config" with
    | none => simp [htop, hn, hnt, hne]
    | some inner => simp [get?_readFields, htop, hn, hnt, hne]
  · cases mount.get? "config" with
    | none => simp [htop, hn]
    | some inner => simp [get?_readFields, htop, hn]

/-- What is under each name in the attributes of a reply. -/
theorem get?_fieldsOfResponse (path : String) (response : Json) (n : String) :
    (fieldsOfResponse path response).get? n =
      ((listed path (responseData response)).get? n).or (if n = "options" then some (.map .empty) else none) := by
  have heq : fieldsOfResponse path response =
      if (listed path (responseData response)).contains "options" then listed path (responseData response)
      else (listed path (responseData response)).insert "options" (.map .empty) := rfl
  rw [heq, SortedMap.contains_eq]
  by_cases hn : n = "options"
  · subst hn
    cases hv : (listed path (responseData response)).get? "options" with
    | none => simp
    | some v => simp [hv]
  · have hne : "options" ≠ n := Ne.symm hn
    cases (listed path (responseData response)).get? "options" with
    | none => simp [hn, hne]
    | some v => simp [hn]

/-! ## Bodies -/

/-- The members of a body at the top level. -/
theorem get?_createBody (m : FieldMap) {n : String} (hn : n ≠ "config") : (createBody m).get? n =
    if n ∈ createTopLevel then (m.get? n).map (wireValue false) else none := by
  have hwritten : (writeFields m createTopLevel []).get? n =
      if n ∈ createTopLevel then (m.get? n).map (wireValue false) else none := by
    rw [get?_writeFields]
    rfl
  have hne : "config" ≠ n := Ne.symm hn
  rw [createBody, Json.get?_ofMap]
  split
  · exact hwritten
  · rw [SortedMap.get?_insert, if_neg hne, hwritten]

/-- The members of the object inside. -/
theorem get?_createBody_config (m : FieldMap) (n : String) :
    ((createBody m).get? "config").bind (·.get? n) =
      if n ∈ config then (m.get? n).map (wireValue (durations.contains n)) else none := by
  have htop : (writeFields m createTopLevel []).get? "config" = none := by
    have hnot : "config" ∉ createTopLevel := by decide +kernel
    simp [get?_writeFields, hnot]
  have hinner := get?_writeFields m config durations n
  rw [createBody, Json.get?_ofMap]
  split
  · rename_i hempty
    rw [htop, ← hinner, SortedMap.get?_eq_none_of_isEmpty hempty, Option.bind_none]
  · rw [SortedMap.get?_insert, if_pos rfl, Option.bind_some, Json.get?_ofMap, hinner]

/-! ## Reports of a body -/

/-- A reported mount object says what a body said of every attribute of the schema, at the top level and in the
object inside. What else it says is free. -/
structure Widens (data body : Json) : Prop where
  isObject : data.isObject = true
  outer : ∀ n ∈ schema.fields.map (·.name), data.get? n = body.get? n
  inner : ∀ n ∈ schema.fields.map (·.name),
    (data.get? "config").bind (·.get? n) = (body.get? "config").bind (·.get? n)

theorem Widens.refl {body : Json} (h : body.isObject = true) : Widens body body :=
  ⟨h, fun _ _ => rfl, fun _ _ => rfl⟩

/-- Attributes that the schema does not declare can stand beside those of a body. -/
theorem widens_merge {extra : Json} (body : Json) (hconfig : extra.get? "config" = none)
    (h : ∀ n ∈ schema.fields.map (·.name), extra.get? n = none) : Widens (extra.merge body) body := by
  refine ⟨rfl, fun n hn => ?_, fun n _ => ?_⟩
  · rw [Json.get?_merge, h n hn, Option.or_none]
  · rw [Json.get?_merge, hconfig, Option.or_none]

section
variable {m : FieldMap} (hm : schema.Settled m)
  (hpos : ∀ n ∈ durations, ∀ i, m.get? n = some (.int i) → 0 ≤ i.toInt)
include hm hpos

theorem remoteEntry_of_echo {f : FieldSpec} (hf : f ∈ fields) {v : FieldValue} (hv : m.get? f.name = some v)
    {isDuration : Bool} (hd : isDuration = true → durations.contains f.name = true) {reported : FieldMap}
    {instead : Option FieldValue}
    (hecho : reported.get? f.name = (FieldValue.ofShape? (wireValue isDuration v)).or instead) :
    f.remoteEntry reported = .ok (some v) :=
  FieldSpec.remoteEntry_of_echo (hm.values f hf v hv) (fun ht =>
    ⟨normalizer_of_duration hf (hd ht), fun i hi => hpos _ (List.contains_iff_mem.1 (hd ht)) i (hi ▸ hv)⟩) hecho

/-- **A reported mount is the mount that was sent**, whatever is reported along with it: every attribute has the
entry that it has in the map that the body was made of. -/
theorem remoteEntry_of_widens {path : String} (hpath : m.get? "path" = some (.string path))
    (hoptions : (m.get? "options").isSome = true) (haccessor : m.get? "accessor" = none) {data : Json}
    (hdata : Widens data (createBody m)) :
    ∀ f ∈ fields, f.remoteEntry (fieldsOfResponse path (.object [("data", data)])) = f.remoteEntry m := by
  intro f hf
  obtain ⟨hpc, hpt, hac, hat, hacreate⟩ := path_accessor_apart
  have hname : f.name ∈ schema.fields.map (·.name) := List.mem_map_of_mem hf
  have hnot : f.name ≠ "config" := fun he => config_not_mem_names (he ▸ hname)
  have hreply := get?_fieldsOfResponse path (.object [("data", data)]) f.name
  rw [responseData_data hdata.isObject] at hreply
  rw [get?_listed, hdata.outer _ hname, hdata.inner _ hname, get?_createBody m hnot, get?_createBody_config] at hreply
  rcases places f hf with he | he | ⟨hcreate, htop, hconfig⟩ | hconfig
  · have hne : "path" ≠ "options" := by decide
    simp only [he, hpc, hpt, hne, if_false, if_true, Option.or_none] at hreply
    simp only [FieldSpec.remoteEntry, he, hreply, hpath]
  · have hne : "accessor" ≠ "options" := by decide
    simp only [he, hac, hat, hacreate, hne, if_false, if_true, Option.or_none, Option.bind_none] at hreply
    simp only [FieldSpec.remoteEntry, he, hreply, haccessor]
  · simp only [hconfig, htop, hcreate, if_false, if_true] at hreply
    cases hv : m.get? f.name with
    | none =>
      have hne : f.name ≠ "options" := by
        intro he
        rw [← he, hv] at hoptions
        cases hoptions
      simp only [hv, hne, if_false, Option.map_none, Option.bind_none, Option.or_none] at hreply
      simp only [FieldSpec.remoteEntry, hreply, hv]
    | some v =>
      simp only [hv, Option.map_some, Option.bind_some] at hreply
      rw [(hm.values f hf v hv).remoteEntry hv]
      exact remoteEntry_of_echo hm hpos hf hv (by simp) hreply
  · have hne : f.name ≠ "options" := fun he => absurd hconfig (he ▸ by decide +kernel)
    simp only [hconfig, hne, if_false, if_true, Option.or_none] at hreply
    cases hv : m.get? f.name with
    | none =>
      simp only [hv, Option.map_none, Option.bind_none] at hreply
      simp only [FieldSpec.remoteEntry, hreply, hv]
    | some v =>
      simp only [hv, Option.map_some, Option.bind_some] at hreply
      rw [(hm.values f hf v hv).remoteEntry hv]
      exact remoteEntry_of_echo hm hpos hf hv id (by rw [hreply, Option.or_none])

end

/-! ## The two spellings of version 2 -/

/-- A mount of version 2 in its other spelling: of type `kv`, with the version among the options. -/
def versioned (m : FieldMap) : FieldMap :=
  (m.insert "type" (.string "kv")).insert "options"
    (.map (((m.map? "options").getD SortedMap.empty).insert "version" "2"))

theorem get?_versioned (m : FieldMap) {n : String} (ht : n ≠ "type") (ho : n ≠ "options") :
    (versioned m).get? n = m.get? n := by
  simp [versioned, Ne.symm ht, Ne.symm ho]

theorem isVersionTwo_versioned (m : FieldMap) : isVersionTwo (versioned m) = true := by
  have hne : "options" ≠ "type" := by decide
  simp [isVersionTwo, versioned, FieldMap.string?, FieldMap.map?, FieldValue.string?, FieldValue.map?, hne]

/-- **The other spelling folds into the first**, where the options name no version. -/
theorem foldVersionTwo_versioned {m : FieldMap} {options : SortedMap String}
    (htype : m.get? "type" = some (.string "kv-v2"))
    (hoptions : m.get? "options" = some (.map options)) (hversion : options.get? "version" = none) :
    foldVersionTwo (versioned m) = m := by
  refine SortedMap.ext_get? fun n => ?_
  rw [get?_foldVersionTwo (isVersionTwo_versioned m)]
  by_cases ht : n = "type"
  · rw [if_pos ht, ht, htype]
  · rw [if_neg ht]
    by_cases ho : n = "options"
    · subst ho
      have herase : (options.insert "version" "2").erase "version" = options := by
        refine SortedMap.ext_get? fun k => ?_
        by_cases hk : "version" = k
        · subst hk
          simp [hversion]
        · simp [hk]
      simp [versioned, unversioned, FieldMap.map?, FieldValue.map?, hoptions, herase]
    · rw [if_neg ho, get?_versioned m ht ho]

theorem settled_versioned {m : FieldMap} (hm : schema.Settled m) : schema.Settled (versioned m) := by
  have hlower : Text.lowerCase "kv" = "kv" := by decide +kernel
  have hne : "options" ≠ "type" := by decide
  refine settled_of_spelling hm (by simp [versioned, hne]) hlower (fun v hv => ?_) fun n => get?_versioned m
  simp only [versioned, SortedMap.get?_insert, if_true, Option.some.injEq] at hv
  exact ⟨_, hv.symm⟩

/-! ## Resolved declarations -/

/-- Of the attributes but the type, the fold takes none away and adds none. -/
theorem isSome_foldVersionTwo (m : FieldMap) {n : String} (hn : n ≠ "type") :
    ((foldVersionTwo m).get? n).isSome = (m.get? n).isSome := by
  cases h : isVersionTwo m with
  | false => rw [foldVersionTwo_of_not h]
  | true =>
    rw [get?_foldVersionTwo h, if_neg hn]
    by_cases ho : n = "options"
    · rw [if_pos ho, ho, Option.isSome_map]
    · rw [if_neg ho]

/-- What a resolved declaration of a path has of the attributes that are read in a way of their own. -/
structure Addressed (r : FieldMap) (path : String) (options : SortedMap String) : Prop where
  path : r.get? "path" = some (.string path)
  options : r.get? "options" = some (.map options)
  accessor : r.get? "accessor" = none

/-- A text attribute and a map attribute of a settled mount hold a text and a map. -/
theorem exists_typed {r : FieldMap} (hr : schema.Settled r) :
    ((r.get? "path").isSome = true → ∃ path, r.get? "path" = some (.string path)) ∧
      ((r.get? "options").isSome = true → ∃ options, r.get? "options" = some (.map options)) := by
  have hlisted : (∃ f ∈ fields, f.name = "path" ∧ f.type = .string) ∧
      ∃ f ∈ fields, f.name = "options" ∧ f.type = .map := by
    decide +kernel
  obtain ⟨⟨f, hf, hfn, hft⟩, g, hg, hgn, hgt⟩ := hlisted
  constructor
  · intro hsome
    obtain ⟨v, hv⟩ := Option.isSome_iff_exists.1 hsome
    have htyped := (hr.values f hf v (hfn ▸ hv)).typed
    rw [hft] at htyped
    cases v with
    | string path => exact ⟨path, hv⟩
    | bool | int | list | map => cases htyped
  · intro hsome
    obtain ⟨v, hv⟩ := Option.isSome_iff_exists.1 hsome
    have htyped := (hr.values g hg v (hgn ▸ hv)).typed
    rw [hgt] at htyped
    cases v with
    | map options => exact ⟨options, hv⟩
    | bool | int | string | list => cases htyped

theorem exists_addressed {desired r : FieldMap} (hr : schema.resolveDesired desired = .ok r)
    (hpath : desired.contains "path" = true) (hs : schema.Settled r) : ∃ path options, Addressed r path options := by
  obtain ⟨hkeys, m, hm, rfl⟩ := Schema.resolveDesired_eq_ok.1 hr
  have hisSome : ∀ f ∈ fields, f.name ≠ "type" → (((schema.canonicalize m).get? f.name).isSome = true ↔
      (desired.get? f.name).isSome = true ∨ f.default.isSome = true) := fun f hf hn => by
    rw [← hm.isSome_get?_iff hf]
    exact iff_of_eq (congrArg (· = true) (isSome_foldVersionTwo m hn))
  have hlisted : (∃ f ∈ fields, f.name = "path") ∧ (∃ f ∈ fields, f.name = "options" ∧ f.default.isSome = true) ∧
      ∃ f ∈ fields, f.name = "accessor" ∧ f.isComputed = true ∧ f.default = none := by
    decide +kernel
  obtain ⟨⟨p, hp, hpn⟩, ⟨o, ho, hon, hodef⟩, a, ha, han, hac, hadef⟩ := hlisted
  have hpsome := (hisSome p hp (hpn ▸ by decide)).2 (.inl (hpn ▸ hpath))
  have hosome := (hisSome o ho (hon ▸ by decide)).2 (.inr hodef)
  obtain ⟨path, hpath⟩ := (exists_typed hs).1 (hpn ▸ hpsome)
  obtain ⟨options, hoptions⟩ := (exists_typed hs).2 (hon ▸ hosome)
  refine ⟨path, options, hpath, hoptions, ?_⟩
  -- nothing can be declared of what the server sets
  have hanone := Schema.get?_eq_none_of_computed hkeys ha hac
  have hasome := hisSome a ha (han ▸ by decide)
  rw [hanone, hadef, han] at hasome
  simpa using hasome

/-! ## Convergence -/

/-- **Mounts converge over the wire**, whichever spelling of version 2 the server uses. A server that reports
what it was sent, and possibly more that the schema does not declare, reports a mount that is in line with its
declaration. So does one that reports a mount of type `kv-v2`, whose options name no version, as one of type
`kv` with the version among its options. -/
theorem echo_converges {desired r : FieldMap} (hr : schema.resolveDesired desired = .ok r)
    (hpath : desired.contains "path" = true)
    (hpos : ∀ n ∈ durations, ∀ i, r.get? n = some (.int i) → 0 ≤ i.toInt) :
    ∃ path, r.string? "path" = some path ∧
      (∀ data, Widens data (createBody r) →
        Plan.compute schema desired (some (fieldsOfResponse path (.object [("data", data)]))) =
          .ok (.single .noop)) ∧
      (r.string? "type" = some "kv-v2" → (∀ options, r.map? "options" = some options → options.get? "version" = none) →
        ∀ data, Widens data (createBody (versioned r)) →
          Plan.compute schema desired (some (fieldsOfResponse path (.object [("data", data)]))) =
            .ok (.single .noop)) := by
  have hresolution : schema.Settled r ∧ foldVersionTwo r = r := by
    obtain ⟨_, m, hm, rfl⟩ := Schema.resolveDesired_eq_ok.1 hr
    exact schema_stable m (Schema.settled_of_desired schema_regular hm)
  obtain ⟨hs, hstable⟩ := hresolution
  obtain ⟨path, options, haddressed⟩ := exists_addressed hr hpath hs
  have hnoop : Plan.compute schema desired (some r) = .ok (.single .noop) :=
    Plan.compute_of_recreated schema_regular schema_stable hr
  refine ⟨path, FieldMap.string?_eq_some.2 haddressed.path, fun data hdata => ?_, fun htype hversion data hdata => ?_⟩
  · have hentries := remoteEntry_of_widens hs hpos haddressed.path (by rw [haddressed.options]; rfl)
      haddressed.accessor hdata
    rw [Plan.compute_congr hentries, hnoop]
  · have hlease : ∀ n ∈ durations, n ≠ "type" ∧ n ≠ "options" := by decide
    have hvpath : (versioned r).get? "path" = some (.string path) := by
      rw [get?_versioned r (by decide) (by decide), haddressed.path]
    have hvaccessor : (versioned r).get? "accessor" = none := by
      rw [get?_versioned r (by decide) (by decide), haddressed.accessor]
    have hvpos : ∀ n ∈ durations, ∀ i, (versioned r).get? n = some (.int i) → 0 ≤ i.toInt := by
      intro n hn i hi
      rw [get?_versioned r (hlease n hn).1 (hlease n hn).2] at hi
      exact hpos n hn i hi
    have hentries := remoteEntry_of_widens (settled_versioned hs) hvpos hvpath (by simp [versioned]) hvaccessor hdata
    have hresolved : schema.resolveRemote (versioned r) = schema.resolveRemote r := by
      have hfold : foldVersionTwo (versioned r) = r :=
        foldVersionTwo_versioned (FieldMap.string?_eq_some.1 htype) haddressed.options
          (hversion options (FieldMap.map?_eq_some.2 haddressed.options))
      rw [Schema.resolveRemote_of_settled (settled_versioned hs), Schema.resolveRemote_of_settled hs]
      exact congrArg Except.ok (hfold.trans hstable.symm)
    rw [Plan.compute_congr hentries, Plan.compute_eq_of_resolveRemote hresolved, hnoop]

/-- A key-value mount of version 2 with a lease of an hour, as it is declared. -/
def leasedMount : FieldMap :=
  .ofList [("path", .string "/team/"), ("type", .string "KV"), ("options", .map (.ofList [("version", "2")])),
    ("default_lease_ttl", .string "1h")]

/-- The same mount, as it is resolved. -/
def resolvedLeasedMount : FieldMap :=
  .ofList [("path", .string "team"), ("type", .string "kv-v2"), ("options", .map .empty),
    ("default_lease_ttl", .int 3600), ("external_entropy_access", .bool false), ("local", .bool false)]

/-- The mount is reported along with what the schema does not declare, and in the other spelling. -/
theorem echo_converges_leased :
    Plan.compute schema leasedMount (some (fieldsOfResponse "team" (.object [("data",
        (Json.object [("uuid", .string "4f"), ("running_sha256", .string "")]).merge
          (createBody resolvedLeasedMount))]))) = .ok (.single .noop) ∧
    Plan.compute schema leasedMount (some (fieldsOfResponse "team" (.object [("data",
        createBody (versioned resolvedLeasedMount))]))) = .ok (.single .noop) := by
  have hleases : resolvedLeasedMount.get? "default_lease_ttl" = some (.int 3600) ∧
      resolvedLeasedMount.get? "max_lease_ttl" = none := by
    decide +kernel
  have hpos : ∀ n ∈ durations, ∀ i, resolvedLeasedMount.get? n = some (.int i) → 0 ≤ i.toInt := by
    simp [durations, hleases]
  have hextra : ∀ n ∈ schema.fields.map (·.name), n ≠ "uuid" ∧ n ≠ "running_sha256" := by decide +kernel
  have hoptions : resolvedLeasedMount.map? "options" = some .empty := by decide +kernel
  have hteam : resolvedLeasedMount.string? "path" = some "team" := by decide +kernel
  obtain ⟨path, hpath, hsame, hother⟩ :=
    echo_converges (by decide +kernel : schema.resolveDesired leasedMount = .ok resolvedLeasedMount)
      (by decide +kernel) hpos
  rw [hteam] at hpath
  cases hpath
  refine ⟨hsame _ (widens_merge _ rfl fun n hn => ?_),
    hother (by decide +kernel) (fun options ho => ?_) _ (Widens.refl rfl)⟩
  · obtain ⟨huuid, hsum⟩ := hextra n hn
    simp [Json.get?, SortedMap.lookup, Ne.symm huuid, Ne.symm hsum]
  · rw [hoptions] at ho
    cases ho
    rfl

end Converge.Vault.Mount
