import Converge.Http.Server
import Converge.Http.Url.Reader
import Converge.Transport
import Converge.Vault.Error
import Converge.Vault.Wire

/-!
# The client of a Vault server

A client turns a path and a body into a request with its token and headers, and a reply into JSON: an
empty body counts as an empty object, and every status that is not a success as an error with the first
message of the body.
-/

namespace Converge.Vault

open Http (Method Reply Request Server Url)

/-- `VaultConfig`: where a server is and how to talk to it. -/
structure Config where
  url : String
  token : Option String
  /-- The namespace on the server. -/
  «namespace» : Option String
deriving DecidableEq

/-- `VaultClient`. -/
structure Client where
  /-- The URL of the server without slashes at its end. -/
  addr : String
  token : String
  headers : Http.Headers

abbrev Conversation (α : Type) := Interaction Server VaultError α

namespace Client

/-- `add_header`: an invalid header is ignored. -/
def addHeader (c : Client) (name value : String) : Client :=
  match Http.headerName? name with
  | some name =>
    if Http.isHeaderValue value then { c with headers := Http.Headers.set name value c.headers } else c
  | none => c

def withoutTrailingSlashes (s : String) : String :=
  String.ofList ((s.toList.reverse.dropWhile fun c => c = '/').reverse)

/-- `from_config`. -/
def ofConfig (config : Config) : Client :=
  let c : Client := ⟨withoutTrailingSlashes config.url, config.token.getD "", []⟩
  match config.namespace with
  | some name => c.addHeader "X-Vault-Namespace" name
  | none => c

/-- The client in a message: its address and the names of its headers, but not the token. -/
def text (c : Client) : String :=
  "VaultClient \x7b addr: " ++ Text.quote c.addr ++ ", headers: "
    ++ Text.quoteList (c.headers.map (·.1)) ++ ", .. \x7d"

/-- The URL that a request for a path goes to, if one can be built. -/
def url? (c : Client) (path : String) : Except Vault.SendFailure Url :=
  match (Url.parse? (c.addr ++ path)).map Url.withoutUser with
  | none => .error .build
  | some u =>
    if !u.hasHost then .error (.buildFor u.text)
    else if !Http.isHeaderValue c.token then .error .build
    else if !u.isWeb || !u.isSendable then .error (.buildFor u.text)
    else .ok u

def requestFor (c : Client) (method : Method) (u : Url) (body : Option Json) : Request :=
  ⟨method, u.target, ("x-vault-token", c.token) :: c.headers, body⟩

/-- The text without a byte order mark at its front. -/
def withoutMark (s : String) : String :=
  match s.toList with
  | '\uFEFF' :: cs => String.ofList cs
  | _ => s

def isSuccess (status : Nat) : Bool := decide (200 ≤ status ∧ status < 300)

def statusError (status : Nat) (body : String) : VaultError := .status status (errorMessage body)

def decodeBody (body : String) : Except VaultError Json :=
  if Text.isBlank body then .ok (.object [])
  else match Json.parse body with
    | .ok v => .ok v
    | .error p => .error (.parse ("Failed to parse response: " ++ p.message))

/-- What a reply to a request for a URL says. -/
def decodeReply (u : Url) : Reply → Except VaultError Json
  | .refused => .error (.send (.refused u.text))
  | .closed => .error (.send (.closed u.text))
  | .timedOut => .error (.send (.timedOut u.text))
  | .truncated status =>
    if status = 204 then .ok (.object [])
    else if isSuccess status then
      .error (.parse "Failed to read response: error decoding response body")
    else .error (statusError status "Unknown error")
  | .answer status body =>
    if status = 204 then .ok (.object [])
    else if isSuccess status then decodeBody (withoutMark body)
    else .error (statusError status (withoutMark body))

/-- `VaultClient::request`: sends a request and reads the reply. -/
def request (c : Client) (method : Method) (path : String) (body : Option Json) :
    Conversation Json :=
  match c.url? path with
  | .error failure => throw (.send failure)
  | .ok u => Interaction.ask fun server =>
    let (reply, server) := server.send (c.requestFor method u body)
    (decodeReply u reply, server)

def get (c : Client) (path : String) : Conversation Json := c.request .get path none

/-- `get_optional`: gets what is at a path, none if there is nothing. -/
def get? (c : Client) (path : String) : Conversation (Option Json) := fun w =>
  match c.get path w with
  | (.ok v, w) => (.ok (some v), w)
  | (.error e, w) => if e.isNotFound then (.ok none, w) else (.error e, w)

def post (c : Client) (path : String) (body : Json) : Conversation Json :=
  c.request .post path (some body)

def delete (c : Client) (path : String) : Conversation Json := c.request .delete path none

/-- Deletes what is at a path; that there is nothing is no error. -/
def deleteIfPresent (c : Client) (path : String) : Conversation Unit := fun w =>
  match c.delete path w with
  | (.ok _, w) => (.ok (), w)
  | (.error e, w) => if e.isNotFound then (.ok (), w) else (.error e, w)

end Client

end Converge.Vault
