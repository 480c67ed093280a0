import Converge.Schema.Basic

/-!
# Mounts

The schema of secrets engine mounts. A mount of type `kv` with the option `version` set to 2 is the same
as one of type `kv-v2` without that option; the schema folds the first spelling into the second.
-/

namespace Converge.Vault.Mount

def kind : String := "vault_mount"

def fields : List FieldSpec := [
  { name := "path", type := .string, mutability := .mutable,
    normalizer := some Normalizer.trimSlashes, validator := some Validator.nonEmpty },
  { name := "type", type := .string, mutability := .immutable,
    normalizer := some Normalizer.caseFold, validator := some Validator.nonEmpty },
  { name := "description", type := .string, mutability := .mutable },
  { name := "default_lease_ttl", type := .int, mutability := .mutable,
    normalizer := some Normalizer.durationSeconds, alwaysSend := true },
  { name := "max_lease_ttl", type := .int, mutability := .mutable,
    normalizer := some Normalizer.durationSeconds, alwaysSend := true },
  { name := "force_no_cache", type := .bool, mutability := .immutable },
  { name := "audit_non_hmac_request_keys", type := .list, mutability := .mutable },
  { name := "audit_non_hmac_response_keys", type := .list, mutability := .mutable },
  { name := "listing_visibility", type := .string, mutability := .mutable,
    normalizer := some Normalizer.caseFold },
  { name := "passthrough_request_headers", type := .list, mutability := .mutable },
  { name := "allowed_response_headers", type := .list, mutability := .mutable },
  { name := "allowed_managed_keys", type := .list, mutability := .mutable,
    normalizer := some Normalizer.unordered },
  { name := "delegated_auth_accessors", type := .list, mutability := .mutable },
  { name := "plugin_version", type := .string, mutability := .mutable },
  { name := "identity_token_key", type := .string, mutability := .mutable },
  { name := "options", type := .map, mutability := .mutable,
    default := some (.map SortedMap.empty), alwaysSend := true },
  { name := "seal_wrap", type := .bool, mutability := .immutable },
  { name := "external_entropy_access", type := .bool, mutability := .immutable,
    default := some (.bool false) },
  { name := "local", type := .bool, mutability := .immutable, default := some (.bool false) },
  { name := "accessor", type := .string, mutability := .computed }]

/-- Does the map describe a key-value engine of version 2, in either spelling? -/
def isVersionTwo (m : FieldMap) : Bool :=
  let version := ((m.map? "options").getD SortedMap.empty).get? "version"
  match m.string? "type" with
  | some "kv" => version == some "2"
  | some "kv-v2" => version == none || version == some "2"
  | _ => false

/-- `canonicalize_kv_v2`: folds the two spellings of a key-value engine of version 2 into one. -/
def foldVersionTwo (m : FieldMap) : FieldMap :=
  if isVersionTwo m then
    let options := ((m.map? "options").getD SortedMap.empty).erase "version"
    let typed := m.insert "type" (.string "kv-v2")
    if typed.contains "options" then typed.insert "options" (.map options) else typed
  else m

def schema : Schema where
  kind := kind
  fields := fields
  canonicalizer := some foldVersionTwo
  names_nodup := by decide +kernel
  latch_bool := by
    have h : fields.all (fun f => !f.latch) = true := by decide +kernel
    intro f hf hl
    have := List.all_eq_true.1 h f hf
    simp [hl] at this

end Converge.Vault.Mount
