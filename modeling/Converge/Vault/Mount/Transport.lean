import Converge.Vault.Client
import Converge.Vault.Mount.Schema
import Converge.Vault.Mount.Wire

/-!
# The transport of mounts

The id of a mount is its path. A changed mount is tuned under the path that it has and then, if its path
is to change, moved to the new one; a server may take its time over that, and is asked once a second
whether it is done.
-/

namespace Converge.Vault.Mount

/-- `mount_url`: the path of the endpoint of a mount. -/
def url (path : String) : String := "/v1/sys/mounts/" ++ Normalizer.withoutSlashes path

/-- How often a server is asked whether a mount has moved. -/
def pollLimit : Nat := 60

def pollInterval : Delay := Delay.ofSeconds 1

/-- How far a server is with moving a mount. -/
inductive MoveStatus where
  | done
  | failed
  | undecided
deriving DecidableEq, Repr

def moveStatus (response : Json) : MoveStatus :=
  match (((responseData response).get? "migration_info").bind (·.get? "status")).bind Json.string? with
  | some "success" => .done
  | some "failure" => .failed
  | _ => .undecided

/-- Does a text stand somewhere in another? -/
def standsIn (part : List Char) : List Char → Bool
  | [] => part.isEmpty
  | c :: cs => part.isPrefixOf (c :: cs) || standsIn part cs

/-- Does the message say that there is no mount? Some servers say so with a status of 400. -/
def saysNoMount (message : String) : Bool :=
  standsIn "No secret engine mount".toList message.toList

/-- Asks whether a move is done, up to `left` more times. -/
def awaitMove (c : Client) (source target migration : String) : Nat → Conversation Unit
  | 0 => throw (.api ("remount of " ++ source ++ " to " ++ target ++ " still running after "
      ++ Number.intText pollLimit ++ " checks (migration " ++ migration ++ ")"))
  | left + 1 => do
    let status ← c.get ("/v1/sys/remount/status/" ++ migration)
    match moveStatus status with
    | .done => return ()
    | .failed => throw (.api ("remount of " ++ source ++ " to " ++ target ++ " failed (migration "
        ++ migration ++ ")"))
    | .undecided =>
      Interaction.pause pollInterval
      awaitMove c source target migration left

def moveBody (source target : String) : Json :=
  .object [("from", .string source), ("to", .string target)]

/-- `remount`: moves a mount and waits until it has moved. -/
def move (c : Client) (source target : String) : Conversation Unit := do
  Interaction.log .info ("Remounting " ++ source ++ " to " ++ target ++ " in Vault")
  let response ← c.post "/v1/sys/remount" (moveBody source target)
  match ((responseData response).get? "migration_id").bind Json.string? with
  | none => return ()
  | some migration => awaitMove c source target migration pollLimit

def read (c : Client) (id : String) : Conversation (Option FieldMap) := fun w =>
  match c.get? (url id) w with
  | (.ok (some response), w) => (.ok (some (fieldsOfResponse id response)), w)
  | (.ok none, w) => (.ok none, w)
  | (.error (.status 400 message), w) =>
    if saysNoMount message then (.ok none, w) else (.error (.status 400 message), w)
  | (.error e, w) => (.error e, w)

/-- Tunes a mount, unless there is nothing to tune. -/
def tune (c : Client) (id : String) (payload : FieldMap) : Conversation Unit := do
  if (tuneMembers payload).isEmpty then return ()
  else
    let _ ← c.post (url id ++ "/tune") (tuneBody payload)
    return ()

/-- The path that a payload moves a mount to. -/
def newPath? (id : String) (payload : FieldMap) : Option String :=
  (payload.string? "path").filter fun path => path ≠ Normalizer.withoutSlashes id

/-- Tunes a mount and moves it if its path changes. A repeated write tunes again, which does no harm. -/
def write (c : Client) (id : String) (payload : FieldMap) : Conversation (Option String) := do
  tune c id payload
  match newPath? id payload with
  | some path =>
    move c (Normalizer.withoutSlashes id) path
    return some path
  | none => return none

def delete (c : Client) (id : String) : Conversation Unit := c.deleteIfPresent (url id)

def create (c : Client) (desired : FieldMap) : Conversation String := do
  match desired.string? "path" with
  | none => throw (.missingField "path")
  | some path =>
    let _ ← c.post (url path) (createBody desired)
    return path

/-- `MountTransport`. -/
def transport (c : Client) : Transport Http.Server VaultError where
  read := read c
  write := write c
  delete := delete c
  create := create c
  retryable := VaultError.isRetryable

end Converge.Vault.Mount
