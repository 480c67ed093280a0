import Converge.Vault.Wire

/-!
# Mounts on the wire

The bodies of the requests about a mount, and the attributes of a mount that a reply holds. Some
attributes stand at the top level of a mount object and some in the object `config` inside it.
-/

namespace Converge.Vault.Mount

/-- The attributes at the top level of a reported mount. -/
def topLevel : List String := [
  "type", "description", "local", "seal_wrap", "external_entropy_access", "options", "accessor",
  "plugin_version"]

/-- The attributes at the top level of a mount that is created. -/
def createTopLevel : List String := [
  "type", "description", "local", "seal_wrap", "external_entropy_access", "options",
  "plugin_version"]

def config : List String := [
  "default_lease_ttl", "max_lease_ttl", "force_no_cache", "audit_non_hmac_request_keys",
  "audit_non_hmac_response_keys", "listing_visibility", "passthrough_request_headers",
  "allowed_response_headers", "allowed_managed_keys", "delegated_auth_accessors",
  "identity_token_key"]

/-- The attributes that the tune endpoint takes. -/
def tunable : List String := [
  "description", "default_lease_ttl", "max_lease_ttl", "options", "audit_non_hmac_request_keys",
  "audit_non_hmac_response_keys", "listing_visibility", "passthrough_request_headers",
  "allowed_response_headers", "allowed_managed_keys", "delegated_auth_accessors", "plugin_version",
  "identity_token_key"]

def durations : List String := ["default_lease_ttl", "max_lease_ttl"]

/-- `create_body`. -/
def createBody (desired : FieldMap) : Json :=
  let body := writeFields desired createTopLevel []
  let inner := writeFields desired config durations
  Json.ofMap (if inner.isEmpty then body else body.insert "config" (Json.ofMap inner))

def tuneMembers (payload : FieldMap) : SortedMap Json := writeFields payload tunable durations

/-- `tune_body`. -/
def tuneBody (payload : FieldMap) : Json := Json.ofMap (tuneMembers payload)

/-- `fields_from_response`: the attributes of the mount at a path that a reply holds. A mount without options has
empty ones. -/
def fieldsOfResponse (path : String) (response : Json) : FieldMap :=
  let mount := responseData response
  let top := readFields mount topLevel (SortedMap.empty.insert "path" (.string path))
  let all := match mount.get? "config" with
    | some inner => readFields inner config top
    | none => top
  if all.contains "options" then all else all.insert "options" (.map SortedMap.empty)

end Converge.Vault.Mount
