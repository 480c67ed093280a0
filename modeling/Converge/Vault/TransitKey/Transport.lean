import Converge.Vault.Client
import Converge.Vault.TransitKey.Schema
import Converge.Vault.TransitKey.Wire

/-!
# The transport of transit keys

The id of a key is made of its backend and its name, and is the path of its endpoint. Calls with
something that is no such id fail before anything is sent, except for a read, which asks first.
-/

namespace Converge.Vault.TransitKey

def url (id : String) : String := "/v1/" ++ id

def configUrl (id : String) : String := url id ++ "/config"

/-- Fails if a text is not the id of a key. -/
def checkId (id : String) : Conversation Unit := fun w =>
  ((parseKeyId id).map fun _ => (), w)

def read (c : Client) (id : String) : Conversation (Option FieldMap) := do
  match ← c.get? (url id) with
  | some response =>
    match fieldsOfResponse id response with
    | .ok fields => return some fields
    | .error e => throw e
  | none =>
    Interaction.log .warn ("Transit key " ++ id ++ " not found")
    return none

def write (c : Client) (id : String) (payload : FieldMap) : Conversation (Option String) := do
  checkId id
  let _ ← c.post (configUrl id) (configBody payload)
  return none

def delete (c : Client) (id : String) : Conversation Unit := do
  checkId id
  c.deleteIfPresent (url id)

/-- Creates a key and configures it. -/
def create (c : Client) (desired : FieldMap) : Conversation String := do
  match desired.string? "backend" with
  | none => throw (.missingField "backend")
  | some backend =>
    match desired.string? "name" with
    | none => throw (.missingField "name")
    | some name =>
      let id := keyId backend name
      let _ ← c.post (url id) (createBody desired)
      let _ ← c.post (configUrl id) (configBody desired)
      Interaction.log .info
        ("Created encryption key " ++ name ++ " on transit backend " ++ backend)
      return id

/-- `TransitKeyTransport`. -/
def transport (c : Client) : Transport Http.Server VaultError where
  read := read c
  write := write c
  delete := delete c
  create := create c
  retryable := VaultError.isRetryable

end Converge.Vault.TransitKey
