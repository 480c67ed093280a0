import Converge.Proofs.Mounts
import Converge.Proofs.TransitKeys

/-!
# Durations that come back

A duration is declared as a text or as a number and is sent as a number of seconds with its unit. A server that
echoes this text reports the declared value, if the number is not negative: a text with a sign is no duration. The
rotation period of a transit key is never negative, because its validator refuses such a value. The leases of a
mount have no validator, so a negative lease is accepted and sent, and then no report that echoes it can be resolved
any more. Main theorem: `Vault.durations_survive`.
-/

namespace Converge

def FieldError.field : FieldError → String
  | .unknown _ field | .invalid field _ | .overflow field => field

namespace FieldSpec

theorem field_of_checkType {f : FieldSpec} {v : FieldValue} {e : FieldError} (h : f.checkType v = .error e) :
    e.field = f.name := by
  unfold checkType at h
  split at h
  · cases h
    rfl
  · dsimp only at h
    split at h
    · cases h
    · cases h
      rfl

/-- A report of an attribute fails with an error about that attribute. -/
theorem field_of_remoteEntry {f : FieldSpec} {remote : FieldMap} {e : FieldError}
    (h : f.remoteEntry remote = .error e) : e.field = f.name := by
  unfold remoteEntry at h
  split at h
  · exact field_of_checkType (map_eq_error.1 h)
  · cases h

end FieldSpec

namespace Vault

/-- The text that a number of seconds is sent as. -/
def secondsText (i : Int64) : String := Number.intText i.toInt ++ "s"

/-- **The text of a number of seconds has the number as its normal form** exactly if that is not negative. -/
theorem durationSeconds_secondsText_iff {i : Int64} :
    Normalizer.durationSeconds (.string (secondsText i)) = .int i ↔ 0 ≤ i.toInt := by
  by_cases h : 0 ≤ i.toInt
  · have hform : Normalizer.durationSeconds (.string (secondsText i)) = .int i := by
      simp only [Normalizer.durationSeconds, secondsText, Duration.seconds_intText h]
    exact iff_of_true hform h
  · have hform : Normalizer.durationSeconds (.string (secondsText i)) = .string (secondsText i) := by
      simp only [Normalizer.durationSeconds, secondsText, Duration.seconds_intText_of_neg (Int.not_le.1 h)]
    rw [hform]
    simp [h]

end Vault

/-! ## Echoes of a duration -/

open Vault (secondsText durationSeconds_secondsText_iff)

namespace FieldSpec

variable {f : FieldSpec} (hn : f.normalizer = some Normalizer.durationSeconds) (ht : f.type = .int)
  {reported : FieldMap} {i : Int64} (hecho : reported.get? f.name = some (.string (secondsText i)))
include hn ht hecho

theorem remoteEntry_of_seconds (h : 0 ≤ i.toInt) : f.remoteEntry reported = .ok (some (.int i)) := by
  have hcomputes : f.overflowsOn (.string (secondsText i)) = false := by
    simp only [overflowsOn, hn]
    exact Duration.overflows_intText h
  have hnormal : f.normalize (.string (secondsText i)) = .int i := by
    simp only [normalize, hn]
    exact durationSeconds_secondsText_iff.2 h
  exact remoteEntry_eq_ok.2 (.inl ⟨_, _, hecho, checkType_eq_ok.2 ⟨hcomputes, hnormal, ht.symm⟩, rfl⟩)

theorem exists_error_of_negative (h : i.toInt < 0) : ∃ e, f.remoteEntry reported = .error e := by
  cases hentry : f.remoteEntry reported with
  | error e => exact ⟨e, rfl⟩
  | ok o =>
    rcases remoteEntry_eq_ok.1 hentry with ⟨v, w, hv, hcheck, _⟩ | ⟨hnone, _⟩
    · -- what is read as a number would be read as this one
      obtain ⟨_, hnormal, htyped⟩ := checkType_eq_ok.1 hcheck
      rw [hecho] at hv
      cases hv
      simp only [normalize, hn, Normalizer.durationSeconds, secondsText, Duration.seconds_intText_of_neg h] at hnormal
      rw [← hnormal, ht] at htyped
      cases htyped
    · rw [hecho] at hnone
      cases hnone

end FieldSpec

namespace Schema

/-- What is reported of an attribute is what is declared of it: no report is refused because of it, and it has not
drifted. -/
structure Survives (s : Schema) (d : FieldMap) (n : String) (reported : FieldMap) : Prop where
  accepted : ∀ e, s.resolveRemote reported = .error e → e.field ≠ n
  undrifted : ∀ r, s.resolveRemote reported = .ok r → ∀ f ∈ s.fields, f.name = n → ¬ f.Drifted d r

variable {s : Schema} {d reported : FieldMap} {f : FieldSpec} (hf : f ∈ s.fields)
include hf

theorem survives_of_remoteEntry {v : FieldValue} (hd : d.get? f.name = some v)
    (hentry : f.remoteEntry reported = .ok (some v))
    (hkept : ∀ m, (s.canonicalize m).get? f.name = m.get? f.name) : s.Survives d f.name reported := by
  constructor
  · intro e he hname
    obtain ⟨before, g, after, hfields, _, hg⟩ := resolveRemote_eq_error.1 he
    have hmem : g ∈ s.fields := hfields ▸ List.mem_append_cons_self
    rw [eq_of_name_eq hmem hf ((FieldSpec.field_of_remoteEntry hg).symm.trans hname), hentry] at hg
    cases hg
  · intro r hr g hg hname hdrifted
    obtain rfl := eq_of_name_eq hg hf hname
    obtain ⟨m, hm, rfl⟩ := resolveRemote_eq_ok.1 hr
    have hheld := hm.entries g hf
    rw [hentry] at hheld
    obtain ⟨_, want, hwant, hne⟩ := hdrifted
    rw [hd] at hwant
    cases hwant
    exact hne (by rw [FieldSpec.held, hkept, ← Except.ok.inj hheld, Option.some_or])

theorem exists_error_of_remoteEntry {e : FieldError} (hentry : f.remoteEntry reported = .error e) :
    ∃ e', s.resolveRemote reported = .error e' := by
  cases hr : s.resolveRemote reported with
  | error e' => exact ⟨e', rfl⟩
  | ok r =>
    obtain ⟨m, hm, _⟩ := resolveRemote_eq_ok.1 hr
    have hok := hm.entries f hf
    rw [hentry] at hok
    cases hok

end Schema

namespace Vault

/-! ## Mounts -/

namespace Mount

/-- What a mount is sent about an attribute in the object `config` of a creation and in every update. -/
structure SendsText (desired d : FieldMap) (n text : String) : Prop where
  created : ((createBody d).get? "config").bind (·.get? n) = some (.string text)
  updated : ∀ remote changed accompanying,
    Plan.compute schema desired (some remote) = .ok (.single (.update changed accompanying)) →
      (tuneBody (updatePayload changed accompanying)).get? n = some (.string text)

/-- The rules of a lease. -/
theorem lease_rules : ∀ n ∈ durations, n ∈ config ∧ n ∈ tunable ∧ durations.contains n = true ∧ n ≠ "type" ∧
    n ≠ "options" ∧ ∃ f ∈ fields, f.name = n ∧ f.alwaysSend = true ∧ f.type = .int ∧
      f.normalizer = some Normalizer.durationSeconds := by
  simp [durations, config, tunable, fields]

theorem get?_tuneBody (payload : FieldMap) (n : String) : (tuneBody payload).get? n =
    if n ∈ tunable then (payload.get? n).map (wireValue (durations.contains n)) else none := by
  rw [tuneBody, Json.get?_ofMap, tuneMembers, get?_writeFields]

section
variable {desired d : FieldMap} {n : String} (hn : n ∈ durations) {i : Int64}
include hn

theorem sendsText_lease (hd : schema.resolveDesired desired = .ok d) (hi : d.get? n = some (.int i)) :
    SendsText desired d n (secondsText i) := by
  obtain ⟨hconfig, htunable, hduration, _, _, f, hf, rfl, hsend, _⟩ := lease_rules n hn
  constructor
  · rw [get?_createBody_config, if_pos hconfig, hi, hduration]
    rfl
  · intro remote changed accompanying hplan
    rw [get?_tuneBody, if_pos htunable, Plan.payload_of_alwaysSend hplan hd hf hsend hi, hduration]
    rfl

variable {id : String} {response : Json}
  (hecho : ((responseData response).get? "config").bind (·.get? n) = some (.string (secondsText i)))
include hecho

/-- A mount that reports what it was sent of a lease. -/
theorem get?_of_echo : (fieldsOfResponse id response).get? n = some (.string (secondsText i)) := by
  obtain ⟨hconfig, _⟩ := lease_rules n hn
  rw [get?_fieldsOfResponse, get?_listed, if_pos hconfig, hecho]
  rfl

theorem survives_lease (hi : d.get? n = some (.int i)) (hpos : 0 ≤ i.toInt) :
    schema.Survives d n (fieldsOfResponse id response) := by
  have hreported : (fieldsOfResponse id response).get? n = _ := get?_of_echo hn hecho
  obtain ⟨_, _, _, htype, hoptions, f, hf, rfl, _, ht, hnormalizer⟩ := lease_rules n hn
  have hentry := FieldSpec.remoteEntry_of_seconds hnormalizer ht hreported hpos
  exact Schema.survives_of_remoteEntry hf hi hentry fun m => get?_foldVersionTwo_of_ne htype hoptions

theorem refused_lease (hd : schema.resolveDesired desired = .ok d) (hneg : i.toInt < 0) :
    ∃ e, Plan.compute schema desired (some (fieldsOfResponse id response)) = .error e := by
  have hreported : (fieldsOfResponse id response).get? n = _ := get?_of_echo hn hecho
  obtain ⟨_, _, _, _, _, f, hf, rfl, _, ht, hnormalizer⟩ := lease_rules n hn
  obtain ⟨_, hentry⟩ := FieldSpec.exists_error_of_negative hnormalizer ht hreported hneg
  obtain ⟨e, he⟩ := Schema.exists_error_of_remoteEntry (s := schema) hf hentry
  exact ⟨e, Plan.compute_of_resolveRemote_error hd he⟩

end

end Mount

/-! ## Transit keys -/

namespace TransitKey

/-- What a key is sent about an attribute in both bodies of a creation and in every update. -/
structure SendsText (desired d : FieldMap) (n text : String) : Prop where
  created : (createBody d).get? n = some (.string text)
  configured : (configBody d).get? n = some (.string text)
  updated : ∀ remote changed accompanying,
    Plan.compute schema desired (some remote) = .ok (.single (.update changed accompanying)) →
      (configBody (updatePayload changed accompanying)).get? n = some (.string text)

/-- The rules of a rotation period. -/
theorem period_rules : ∀ n ∈ durations, n ∈ keyParams ∧ n ∈ config ∧ n ∈ readable ∧ durations.contains n = true ∧
    ∃ f ∈ fields, f.name = n ∧ f.alwaysSend = true ∧ f.type = .int := by
  simp [durations, keyParams, config, readable, fields]

section
variable {desired d : FieldMap} (hd : schema.resolveDesired desired = .ok d) {n : String} (hn : n ∈ durations)
  {i : Int64} (hi : d.get? n = some (.int i))
include hd hn hi

theorem period_nonneg : 0 ≤ i.toInt := by
  obtain ⟨_, _, _, hduration, f, hf, rfl, _⟩ := period_rules n hn
  obtain ⟨_, m, hm, rfl⟩ := Schema.resolveDesired_eq_ok.1 hd
  rw [Schema.canonicalize_eq_self rfl] at hi
  exact duration_nonneg hm hf hduration hi

theorem sendsText_period : SendsText desired d n (secondsText i) := by
  obtain ⟨hkey, hconfig, _, hduration, f, hf, rfl, hsend, _⟩ := period_rules n hn
  constructor
  · rw [createBody, Json.get?_ofMap, get?_writeFields, if_pos hkey, hi, hduration]
    rfl
  · rw [get?_configBody, if_pos hconfig, hi, hduration]
    rfl
  · intro remote changed accompanying hplan
    rw [get?_configBody, if_pos hconfig, Plan.payload_of_alwaysSend hplan hd hf hsend hi, hduration]
    rfl

theorem survives_period {id : String} {response : Json} {remote : FieldMap}
    (hremote : fieldsOfResponse id response = .ok remote)
    (hecho : (responseData response).get? n = some (.string (secondsText i))) : schema.Survives d n remote := by
  obtain ⟨_, _, hread, hduration, f, hf, rfl, _, ht⟩ := period_rules n hn
  obtain ⟨backend, name, _, rfl⟩ := fieldsOfResponse_eq_ok.1 hremote
  have hreported : (reported backend name (responseData response)).get? f.name = some (.string (secondsText i)) := by
    rw [get?_reported, if_pos hread, hecho]
    rfl
  obtain ⟨hnormalizer, _⟩ := normalizer_of_duration hf hduration
  exact Schema.survives_of_remoteEntry hf hi
    (FieldSpec.remoteEntry_of_seconds hnormalizer ht hreported (period_nonneg hd hn hi)) fun _ => rfl

end

end TransitKey

/-! ## Both kinds -/

/-- **Which durations survive the wire.** Every duration that is declared goes into every body as its number of
seconds with the unit. The period of a key is never negative: the text that is sent has it as its normal form, and a
server that echoes it is neither refused for it nor has it drifted. So it is with the lease of a mount that is not
negative; with a negative one the text has another normal form, and every plan for a report that echoes it fails. -/
theorem durations_survive (desired d : FieldMap) (n : String) (i : Int64) (hi : d.get? n = some (.int i)) :
    (Mount.schema.resolveDesired desired = .ok d → n ∈ Mount.durations →
      Mount.SendsText desired d n (secondsText i) ∧
      (Normalizer.durationSeconds (.string (secondsText i)) = .int i ↔ 0 ≤ i.toInt) ∧
      ∀ id response, ((responseData response).get? "config").bind (·.get? n) = some (.string (secondsText i)) →
        (0 ≤ i.toInt → Mount.schema.Survives d n (Mount.fieldsOfResponse id response)) ∧
        (i.toInt < 0 →
          ∃ e, Plan.compute Mount.schema desired (some (Mount.fieldsOfResponse id response)) = .error e)) ∧
    (TransitKey.schema.resolveDesired desired = .ok d → n ∈ TransitKey.durations →
      TransitKey.SendsText desired d n (secondsText i) ∧
      Normalizer.durationSeconds (.string (secondsText i)) = .int i ∧
      ∀ id response remote, TransitKey.fieldsOfResponse id response = .ok remote →
        (responseData response).get? n = some (.string (secondsText i)) →
          TransitKey.schema.Survives d n remote) := by
  constructor
  · intro hd hn
    refine ⟨Mount.sendsText_lease hn hd hi, durationSeconds_secondsText_iff, fun id response hecho => ⟨?_, ?_⟩⟩
    · exact Mount.survives_lease hn hecho hi
    · exact Mount.refused_lease hn hecho hd
  · intro hd hn
    refine ⟨TransitKey.sendsText_period hd hn hi, ?_, fun id response remote hremote hecho => ?_⟩
    · exact durationSeconds_secondsText_iff.2 (TransitKey.period_nonneg hd hn hi)
    · exact TransitKey.survives_period hd hn hi hremote hecho

/-- The lease of an hour and the period of a day survive. -/
theorem durations_survive_hour_day :
    Mount.schema.Survives Mount.resolvedLeasedMount "default_lease_ttl" (Mount.fieldsOfResponse "team"
      (.object [("data", .object [("config", .object [("default_lease_ttl", .string "3600s")])])])) ∧
    TransitKey.schema.Survives TransitKey.resolvedDailyKey "auto_rotate_period"
      (TransitKey.reported "transit" "app" (.object [("auto_rotate_period", .string "86400s")])) := by
  have htexts : secondsText 3600 = "3600s" ∧ secondsText 86400 = "86400s" := by decide +kernel
  constructor
  · have hlease := durations_survive Mount.leasedMount Mount.resolvedLeasedMount "default_lease_ttl" 3600
      (by decide +kernel)
    obtain ⟨_, _, hecho⟩ := hlease.1 (by decide +kernel) (by decide)
    exact (hecho "team" _ (by rw [htexts.1]; rfl)).1 (by decide)
  · have hperiod := durations_survive TransitKey.dailyKey TransitKey.resolvedDailyKey "auto_rotate_period" 86400
      (by decide +kernel)
    obtain ⟨_, _, hecho⟩ := hperiod.2 (by decide +kernel) (by decide)
    refine hecho "transit/keys/app" (.object [("data", .object [("auto_rotate_period", .string "86400s")])]) _ ?_ ?_
    · exact TransitKey.fieldsOfResponse_eq (by decide +kernel) rfl
    · rw [htexts.2]
      rfl

/-- A negative lease is accepted and sent, and a server that echoes it is refused for it. -/
theorem durations_survive_negative : ∃ desired d,
    Mount.schema.resolveDesired desired = .ok d ∧ d.get? "max_lease_ttl" = some (.int (-5)) ∧
    ((Mount.createBody d).get? "config").bind (·.get? "max_lease_ttl") = some (.string "-5s") ∧
    Normalizer.durationSeconds (.string "-5s") ≠ .int (-5) ∧
    Mount.schema.resolveRemote (Mount.fieldsOfResponse "team" (.object [("data", .object [("type", .string "kv"),
        ("config", .object [("max_lease_ttl", .string "-5s")])])])) =
      .error (.invalid "max_lease_ttl" "expected integer, got string \"-5s\"") := by
  let desired : FieldMap := .ofList [("path", .string "team"), ("type", .string "kv"), ("max_lease_ttl", .int (-5))]
  let d : FieldMap := .ofList [("path", .string "team"), ("type", .string "kv"), ("max_lease_ttl", .int (-5)),
    ("external_entropy_access", .bool false), ("local", .bool false), ("options", .map .empty)]
  have hd : Mount.schema.resolveDesired desired = .ok d := by decide +kernel
  have hlease : d.get? "max_lease_ttl" = some (.int (-5)) := by decide +kernel
  have htext : secondsText (-5) = "-5s" := by decide +kernel
  have hsent := (Mount.sendsText_lease (by decide +kernel) hd hlease).created
  rw [htext] at hsent
  exact ⟨desired, d, hd, hlease, hsent, by decide +kernel, by decide +kernel⟩

end Vault

end Converge
