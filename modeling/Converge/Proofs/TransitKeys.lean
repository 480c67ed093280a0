import Converge.Proofs.Convergence
import Converge.Proofs.KeyIds

/-!
# Transit keys on the wire

A transit key is written in two bodies and read back through its id and one reply. What was written is found
again: a server that reports the bodies it was sent reports a key that is in line with its declaration, after a
creation and after an update. Main theorem: `Vault.TransitKey.reported_converges`.
-/

namespace Converge.Vault.TransitKey

/-! ## Attributes -/

/-- How the attributes are spread over the id and the bodies: what makes up the id, what the server sets, and
what is written and can be read. -/
theorem places : ∀ f ∈ fields, f.name = "backend" ∨ f.name = "name" ∨
    (f.name ∈ readable ∧ ((f.isComputed = true ∧ f.default = none ∧ f.name ∉ keyParams ∧ f.name ∉ config) ∨
      f.name ∈ keyParams ∨ f.name ∈ config)) := by
  simp [fields, readable, keyParams, config, FieldSpec.isComputed]

theorem config_subset : ∀ n ∈ config, n ∈ readable := by simp [config, readable]

/-- Everything that can go along with an update is configured. -/
theorem mem_config_of_sent : ∀ f ∈ fields, (f.mutability = .mutable ∨ f.alwaysSend = true) → f.name ∈ config := by
  simp [fields, config]

theorem normalizer_of_duration {f : FieldSpec} (hf : f ∈ fields) (hd : durations.contains f.name = true) :
    f.normalizer = some Normalizer.durationSeconds ∧ f.validator = some Validator.nonNegative ∧ f.default = none := by
  have hall : ∀ f ∈ fields, f.name = "auto_rotate_period" → f.normalizer = some Normalizer.durationSeconds ∧
      f.validator = some Validator.nonNegative ∧ f.default = none := by
    simp [fields]
  have hname : f.name = "auto_rotate_period" := by simpa [durations] using hd
  exact hall f hf hname

variable {desired r m : FieldMap}

/-- A declared duration is not negative. -/
theorem duration_nonneg (hm : Schema.Collected (·.desiredEntry desired) fields m) {f : FieldSpec} (hf : f ∈ fields)
    (hd : durations.contains f.name = true) {i : Int64} (hi : m.get? f.name = some (.int i)) : 0 ≤ i.toInt := by
  obtain ⟨_, hv, hdef⟩ := normalizer_of_duration hf hd
  rcases FieldSpec.desiredEntry_eq_ok.1 (hm.entries f hf) with ⟨v, w, _, hw, he⟩ | ⟨_, _, he⟩
  · rw [hi] at he
    cases he
    have hcomplaint := (FieldSpec.checkDesired_eq_ok.1 hw).2
    simp only [FieldSpec.complaint, hv, Option.bind_some, Validator.nonNegative] at hcomplaint
    by_contra hneg
    rw [if_pos (by omega)] at hcomplaint
    cases hcomplaint
  · rw [hi] at he
    simp [FieldSpec.defaultValue, hdef] at he

/-- **What a server echoes of a declared value resolves to that value.** -/
theorem remoteEntry_of_echo (hm : Schema.Collected (·.desiredEntry desired) fields m) {f : FieldSpec}
    (hf : f ∈ fields) {v : FieldValue} (hv : m.get? f.name = some v) {reported : FieldMap}
    (hecho : reported.get? f.name = FieldValue.ofShape? (wireValue (durations.contains f.name) v)) :
    f.remoteEntry reported = .ok (some v) := by
  have hs : f.Settled v := (Schema.settled_of_desired schema_regular hm).values f hf v hv
  exact FieldSpec.remoteEntry_of_echo hs (fun hd =>
    ⟨(normalizer_of_duration hf hd).1, fun i hi => duration_nonneg hm hf hd (hi ▸ hv)⟩)
    (hecho.trans Option.or_none.symm)

/-! ## Replies -/

/-- What is reported of the key of a backend and a name whose attributes are these. -/
def reported (backend name : String) (data : Json) : FieldMap :=
  readFields data readable ((SortedMap.empty.insert "backend" (.string backend)).insert "name" (.string name))

theorem fieldsOfResponse_eq_ok {id : String} {response : Json} {m : FieldMap} : fieldsOfResponse id response = .ok m ↔
    ∃ backend name, parseKeyId id = .ok (backend, name) ∧ reported backend name (responseData response) = m := by
  unfold fieldsOfResponse
  rw [bind_eq_ok]
  constructor
  · rintro ⟨⟨backend, name⟩, hkey, hm⟩
    cases hm
    exact ⟨backend, name, hkey, rfl⟩
  · rintro ⟨backend, name, hkey, rfl⟩
    exact ⟨(backend, name), hkey, rfl⟩

theorem fieldsOfResponse_eq {id backend name : String} (h : parseKeyId id = .ok (backend, name)) {data : Json}
    (hdata : data.isObject = true) :
    fieldsOfResponse id (.object [("data", data)]) = .ok (reported backend name data) :=
  fieldsOfResponse_eq_ok.2 ⟨backend, name, h, by rw [responseData_data hdata]⟩

theorem get?_reported (backend name : String) (data : Json) (n : String) :
    (reported backend name data).get? n =
      if n ∈ readable then (data.get? n).bind FieldValue.ofShape?
      else if n = "backend" then some (.string backend)
      else if n = "name" then some (.string name)
      else none := by
  rw [reported, get?_readFields]
  by_cases hn : n ∈ readable
  · obtain ⟨hb, hname⟩ := backend_name_apart
    have hnb : "backend" ≠ n := fun h => hb (h ▸ hn)
    have hnn : "name" ≠ n := fun h => hname (h ▸ hn)
    simp [hn, hnb, hnn]
  · simp only [hn, if_false, SortedMap.get?_insert, SortedMap.get?_empty, eq_comm (b := n)]
    by_cases hb : n = "backend"
    · subst hb
      simp
    · simp [hb]

/-! ## Convergence -/

theorem get?_configBody (payload : FieldMap) (n : String) : (configBody payload).get? n =
    if n ∈ config then (payload.get? n).map (wireValue (durations.contains n)) else none := by
  rw [configBody, Json.get?_ofMap, get?_writeFields]

/-- The two bodies agree on what they share. -/
theorem get?_bodies (m : FieldMap) (n : String) : ((createBody m).merge (configBody m)).get? n =
    if n ∈ keyParams ∨ n ∈ config then (m.get? n).map (wireValue (durations.contains n)) else none := by
  rw [Json.get?_merge, get?_configBody, createBody, Json.get?_ofMap, get?_writeFields]
  by_cases hc : n ∈ config
  · by_cases hk : n ∈ keyParams <;> simp [hc, hk]
  · simp [hc]

/-- **A created key is reported as it was declared**: every attribute has the entry that it has in the
resolved declaration. -/
theorem remoteEntry_of_created (hkeys : desired.keys.findSome? schema.nameError = none)
    (hm : Schema.Collected (·.desiredEntry desired) fields m) {backend name : String}
    (hb : m.get? "backend" = some (.string backend)) (hn : m.get? "name" = some (.string name)) :
    ∀ f ∈ fields,
      f.remoteEntry (reported backend name ((createBody m).merge (configBody m))) = f.remoteEntry m := by
  intro f hf
  obtain ⟨hbackend, hname⟩ := backend_name_apart
  rcases places f hf with he | he | ⟨hread, ⟨hc, hdef, hkey, hconfig⟩ | hwritten⟩
  · simp only [FieldSpec.remoteEntry, get?_reported, he, hbackend, if_false, if_true, hb]
  · have hne : "name" ≠ "backend" := by decide
    simp only [FieldSpec.remoteEntry, get?_reported, he, hname, hne, if_false, if_true, hn]
  · have hdesired := Schema.get?_eq_none_of_computed hkeys hf hc
    have hnone : m.get? f.name = none := by
      have hentry := hm.entries f hf
      simp only [FieldSpec.desiredEntry, hdesired, FieldSpec.defaultOverflows, FieldSpec.defaultValue, hdef,
        Option.map_none] at hentry
      exact (Except.ok.inj hentry).symm
    simp [FieldSpec.remoteEntry, get?_reported, get?_bodies, hread, hkey, hconfig, hnone]
  · cases hv : m.get? f.name with
    | none => simp [FieldSpec.remoteEntry, get?_reported, get?_bodies, hread, hwritten, hv]
    | some v =>
      have hs : f.Settled v := (Schema.settled_of_desired schema_regular hm).values f hf v hv
      rw [hs.remoteEntry hv]
      refine remoteEntry_of_echo hm hf hv ?_
      simp [get?_reported, get?_bodies, hread, hwritten, hv]

/-- **An updated key is reported with the payload written over it.** -/
theorem remoteEntry_of_updated (hm : Schema.Collected (·.desiredEntry desired) fields m) {backend name : String}
    {data : Json} {payload : FieldMap}
    (hpayload : ∀ f ∈ fields, ∀ v, payload.get? f.name = some v → m.get? f.name = some v ∧ f.name ∈ config) :
    ∀ f ∈ fields, f.remoteEntry (reported backend name (data.merge (configBody payload))) =
      f.remoteEntry ((reported backend name data).overwrite payload) := by
  intro f hf
  cases hp : payload.get? f.name with
  | none => simp [FieldSpec.remoteEntry, get?_reported, Json.get?_merge, get?_configBody, hp]
  | some v =>
    obtain ⟨hv, hconfig⟩ := hpayload f hf v hp
    have hread := config_subset f.name hconfig
    have hs : f.Settled v := (Schema.settled_of_desired schema_regular hm).values f hf v hv
    have hafter : ((reported backend name data).overwrite payload).get? f.name = some v := by simp [hp]
    rw [hs.remoteEntry hafter]
    refine remoteEntry_of_echo hm hf hv ?_
    simp [get?_reported, Json.get?_merge, get?_configBody, hread, hconfig, hp]

/-- **Transit keys converge over the wire.** A server that reports the two bodies of a creation reports a
key that is in line with its declaration, if the name keeps clear of the separator of the id. And where an
update is planned for what a server reports of a key, a server that then reports the configuration it was
sent over that reports a key in line with its declaration. -/
theorem reported_converges :
    (∀ desired r, schema.resolveDesired desired = .ok r → desired.contains "backend" = true →
      desired.contains "name" = true → ∃ backend name, r.string? "backend" = some backend ∧
        r.string? "name" = some name ∧ (¬ "keys/".toList <+: name.toList → ¬ "/keys/".toList <:+: name.toList →
          ∃ after, fieldsOfResponse (keyId backend name) (.object [("data", (createBody r).merge (configBody r))]) =
              .ok after ∧ Plan.compute schema desired (some after) = .ok (.single .noop))) ∧
    ∀ desired id key members before changed accompanying, parseKeyId id = .ok key →
      fieldsOfResponse id (.object [("data", .object members)]) = .ok before →
      Plan.compute schema desired (some before) = .ok (.single (.update changed accompanying)) →
        ∃ after, fieldsOfResponse id (.object [("data",
            (Json.object members).merge (configBody (updatePayload changed accompanying)))]) = .ok after ∧
          Plan.compute schema desired (some after) = .ok (.single .noop) := by
  constructor
  · intro desired r hr hb hn
    obtain ⟨hkeys, m, hm, rfl⟩ := Schema.resolveDesired_eq_ok.1 hr
    rw [Schema.canonicalize_eq_self rfl] at hr ⊢
    obtain ⟨backend, hbackend, htrimb, hneb⟩ := exists_declared hm (.inl rfl) hb
    obtain ⟨name, hname, htrimn, hnen⟩ := exists_declared hm (.inr rfl) hn
    refine ⟨backend, name, by rw [FieldMap.string?, hbackend]; rfl, by rw [FieldMap.string?, hname]; rfl, ?_⟩
    intro hstart hinside
    have hid : parseKeyId (keyId backend name) = .ok (backend, name) := by
      have hparse := parseKeyId_keyId backend name
      rw [htrimb, htrimn] at hparse
      exact hparse hneb hnen hstart hinside
    refine ⟨_, fieldsOfResponse_eq hid rfl, ?_⟩
    rw [Plan.compute_congr (remoteEntry_of_created hkeys hm hbackend hname)]
    exact Plan.compute_of_recreated schema_regular (Schema.stable_of_canonicalizer_eq_none rfl) hr
  · rintro desired id ⟨backend, name⟩ members before changed accompanying hid hbefore hplan
    rw [fieldsOfResponse_eq hid rfl] at hbefore
    cases hbefore
    obtain ⟨d, _, hd, _⟩ := Plan.update_cases hplan
    obtain ⟨_, m, hm, rfl⟩ := Schema.resolveDesired_eq_ok.1 hd
    rw [Schema.canonicalize_eq_self rfl] at hd
    have hpayload : ∀ f ∈ fields, ∀ v, (updatePayload changed accompanying).get? f.name = some v →
        m.get? f.name = some v ∧ f.name ∈ config := by
      intro f hf v hv
      obtain ⟨hdeclared, hsent⟩ := Plan.sent_of_payload hplan hd hf hv
      exact ⟨hdeclared, mem_config_of_sent f hf hsent⟩
    refine ⟨_, fieldsOfResponse_eq hid rfl, ?_⟩
    rw [Plan.compute_congr (remoteEntry_of_updated hm hpayload)]
    exact Plan.compute_after_update schema_regular rfl hplan

/-- A key that rotates every day, as it is declared. -/
def dailyKey : FieldMap :=
  .ofList [("backend", .string "/transit/"), ("name", .string "app"), ("auto_rotate_period", .string "24h")]

/-- A key that rotates every day, as it is resolved. -/
def resolvedDailyKey : FieldMap :=
  .ofList [("backend", .string "transit"), ("name", .string "app"), ("auto_rotate_period", .int 86400),
    ("type", .string "aes256-gcm96"), ("convergent_encryption", .bool false), ("derived", .bool false),
    ("deletion_allowed", .bool false), ("exportable", .bool false), ("allow_plaintext_backup", .bool false),
    ("min_decryption_version", .int 1), ("min_encryption_version", .int 0)]

/-- A key that rotates every day is created, and one that rotates every hour is changed to do so. -/
theorem reported_converges_daily :
    (∃ after, fieldsOfResponse (keyId "transit" "app")
        (.object [("data", (createBody resolvedDailyKey).merge (configBody resolvedDailyKey))]) = .ok after ∧
      Plan.compute schema dailyKey (some after) = .ok (.single .noop)) ∧
    ∃ after, fieldsOfResponse "transit/keys/app" (.object [("data",
        (Json.object [("type", .string "aes256-gcm96"), ("auto_rotate_period", .string "1h")]).merge
          (configBody (updatePayload (.ofList [("auto_rotate_period", .int 86400)])
            (.ofList [("allow_plaintext_backup", .bool false), ("deletion_allowed", .bool false),
              ("exportable", .bool false), ("min_decryption_version", .int 1),
              ("min_encryption_version", .int 0)]))))]) = .ok after ∧
      Plan.compute schema dailyKey (some after) = .ok (.single .noop) := by
  have hdaily : schema.resolveDesired dailyKey = .ok resolvedDailyKey := by decide +kernel
  obtain ⟨backend, name, hb, hn, hcreated⟩ :=
    reported_converges.1 _ _ hdaily (by decide +kernel) (by decide +kernel)
  have hbackend : resolvedDailyKey.string? "backend" = some "transit" := by decide +kernel
  have hname : resolvedDailyKey.string? "name" = some "app" := by decide +kernel
  rw [hbackend] at hb
  rw [hname] at hn
  cases hb
  cases hn
  exact ⟨hcreated (by decide +kernel) (by decide +kernel),
    reported_converges.2 _ _ ("transit", "app") _ _ _ _ (by decide +kernel) rfl (by decide +kernel)⟩

end Converge.Vault.TransitKey
