import Converge.Schema.Basic

/-!
# Transit keys

The schema of the keys of a transit engine. What fixes how a key works cannot change; two of its
permissions can be given but not taken away again.
-/

namespace Converge.Vault.TransitKey

def kind : String := "vault_transit_key"

/-- The type of a key for which none is declared. -/
def defaultType : String := "aes256-gcm96"

def fields : List FieldSpec := [
  { name := "backend", type := .string, mutability := .immutable,
    normalizer := some Normalizer.trimSlashes, validator := some Validator.nonEmpty },
  { name := "name", type := .string, mutability := .immutable,
    normalizer := some Normalizer.trimSlashes, validator := some Validator.nonEmpty },
  { name := "type", type := .string, mutability := .immutable,
    default := some (.string defaultType), normalizer := some Normalizer.caseFold },
  { name := "convergent_encryption", type := .bool, mutability := .immutable,
    default := some (.bool false) },
  { name := "derived", type := .bool, mutability := .immutable, default := some (.bool false) },
  { name := "key_size", type := .int, mutability := .immutable,
    validator := some (Validator.between 32 512) },
  { name := "deletion_allowed", type := .bool, mutability := .mutable,
    default := some (.bool false), alwaysSend := true },
  { name := "exportable", type := .bool, mutability := .mutable, default := some (.bool false),
    latch := true, alwaysSend := true },
  { name := "allow_plaintext_backup", type := .bool, mutability := .mutable,
    default := some (.bool false), latch := true, alwaysSend := true },
  { name := "auto_rotate_period", type := .int, mutability := .mutable,
    normalizer := some Normalizer.durationSeconds, validator := some Validator.nonNegative,
    alwaysSend := true },
  { name := "min_decryption_version", type := .int, mutability := .mutable,
    default := some (.int 1), validator := some (Validator.atLeast 1), alwaysSend := true },
  { name := "min_encryption_version", type := .int, mutability := .mutable,
    default := some (.int 0), validator := some Validator.nonNegative, alwaysSend := true },
  { name := "latest_version", type := .int, mutability := .computed },
  { name := "min_available_version", type := .int, mutability := .computed },
  { name := "supports_encryption", type := .bool, mutability := .computed },
  { name := "supports_decryption", type := .bool, mutability := .computed },
  { name := "supports_derivation", type := .bool, mutability := .computed },
  { name := "supports_signing", type := .bool, mutability := .computed }]

def schema : Schema where
  kind := kind
  fields := fields
  names_nodup := by decide +kernel
  latch_bool := by
    have h : fields.all (fun f => !f.latch || decide (f.type = .bool)) = true := by decide +kernel
    intro f hf hl
    have := List.all_eq_true.1 h f hf
    simpa [hl] using this

end Converge.Vault.TransitKey
