import Converge.Vault.Mount.Transport
import Converge.Vault.TransitKey.Transport

/-!
# The kinds of Vault resources

The schemas and transports of every kind that this library knows.
-/

namespace Converge.Vault

/-- `builtin_schemas`. -/
def schemas : List Schema := [Mount.schema, TransitKey.schema]

/-- `builtin_registry`. -/
def registry : Registry := Registry.ofSchemas schemas

/-- `for_kind`: the transport of a kind. -/
def transport? (c : Client) (kind : String) : Option (Transport Http.Server VaultError) :=
  if kind = Mount.kind then some (Mount.transport c)
  else if kind = TransitKey.kind then some (TransitKey.transport c)
  else none

end Converge.Vault
