import Converge.Field.Rule
import Converge.Vault.Error
import Converge.Vault.Wire

/-!
# Transit keys on the wire

The id of a transit key, the bodies of the requests about it and the attributes that a reply holds. A
key is created in two writes: the key itself, then its configuration, which holds all that may change
later.
-/

namespace Converge.Vault.TransitKey

/-- The attributes that are written when a key is created. -/
def keyParams : List String :=
  ["convergent_encryption", "derived", "type", "key_size", "auto_rotate_period"]

def config : List String := [
  "min_decryption_version", "min_encryption_version", "deletion_allowed", "exportable",
  "allow_plaintext_backup", "auto_rotate_period"]

def readable : List String := [
  "type", "convergent_encryption", "derived", "key_size", "deletion_allowed", "exportable",
  "allow_plaintext_backup", "auto_rotate_period", "min_decryption_version",
  "min_encryption_version", "latest_version", "min_available_version", "supports_encryption",
  "supports_decryption", "supports_derivation", "supports_signing"]

def durations : List String := ["auto_rotate_period"]

/-- What stands between the backend and the name in the id of a key. -/
def separator : List Char := "/keys/".toList

/-- `key_id`: the id of the key of a name in a backend. -/
def keyId (backend name : String) : String :=
  Normalizer.withoutSlashes backend ++ String.ofList separator ++ Normalizer.withoutSlashes name

/-- The parts of a text before and after the last place where `sep` stands. -/
def splitLast? (sep : List Char) : List Char → Option (List Char × List Char)
  | [] => if sep.isEmpty then some ([], []) else none
  | c :: cs =>
    match splitLast? sep cs with
    | some (before, after) => some (c :: before, after)
    | none => if sep.isPrefixOf (c :: cs) then some ([], (c :: cs).drop sep.length) else none

/-- `parse_key_id`: the backend and the name that the id of a key is made of. -/
def parseKeyId (id : String) : Except VaultError (String × String) :=
  match splitLast? separator id.toList with
  | some (backend, name) =>
    if backend.isEmpty || name.isEmpty then .error (.invalidId id)
    else .ok (String.ofList backend, String.ofList name)
  | none => .error (.invalidId id)

/-- `create_body`. -/
def createBody (desired : FieldMap) : Json := Json.ofMap (writeFields desired keyParams durations)

/-- `config_body`. -/
def configBody (fields : FieldMap) : Json := Json.ofMap (writeFields fields config durations)

/-- `fields_from_response`: the attributes of the key of an id that a reply holds. -/
def fieldsOfResponse (id : String) (response : Json) : Except VaultError FieldMap := do
  let (backend, name) ← parseKeyId id
  let named := (SortedMap.empty.insert "backend" (.string backend)).insert "name" (.string name)
  return readFields (responseData response) readable named

end Converge.Vault.TransitKey
