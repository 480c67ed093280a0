import Converge.Json.Number

/-!
# Errors of the Vault transports

What a call can fail with, its wording, and whether the same call may succeed later: a refused or timed
out connection, a failure of the server, a rate limit and a standby that has yet to catch up may pass;
everything else is final.
-/

namespace Converge.Vault

/-- Why a request got no reply at all. -/
inductive SendFailure where
  /-- The request could not be built. -/
  | build
  /-- The request could not be built for a URL. -/
  | buildFor (url : String)
  /-- No connection was made. -/
  | refused (url : String)
  /-- The connection was closed without a reply. -/
  | closed (url : String)
  /-- No reply came in time. -/
  | timedOut (url : String)
deriving DecidableEq, Repr

def SendFailure.message : SendFailure → String
  | .build => "builder error"
  | .buildFor url => "builder error for url (" ++ url ++ ")"
  | .refused url | .closed url | .timedOut url => "error sending request for url (" ++ url ++ ")"

inductive VaultError where
  | api (message : String)
  | parse (message : String)
  | status (code : Nat) (message : String)
  | invalidId (id : String)
  | missingField (name : String)
  | send (failure : SendFailure)
deriving DecidableEq, Repr

namespace VaultError

def message : VaultError → String
  | .api m => "API error: " ++ m
  | .parse m => "Parse error: " ++ m
  | .status code m => "HTTP status " ++ Number.intText code ++ ": " ++ m
  | .invalidId id => "Invalid resource id: " ++ id
  | .missingField name => "Missing required field: " ++ name
  | .send failure => "Error from reqwest: " ++ failure.message

instance : ToString VaultError := ⟨message⟩

/-- `is_retryable`: may the same call succeed later? -/
def isRetryable : VaultError → Bool
  | .send (.refused _) | .send (.timedOut _) => true
  | .status code _ => decide (500 ≤ code) || code = 429 || code = 412
  | _ => false

/-- `is_not_found`: does the server say that there is no such thing? -/
def isNotFound : VaultError → Bool
  | .status 404 _ => true
  | _ => false

end VaultError

end Converge.Vault
