import Converge.Http.Header
import Converge.Json.Basic

/-!
# Servers

A server as its client sees it: for every request that is sent there is one reply, and a reply may also
be that there is none. The replies are given beforehand, in order, with one more that all further
requests get. A request reaches the server unless the connection is refused.
-/

namespace Converge.Http

inductive Method where
  | get
  | post
  | delete
deriving DecidableEq, Repr

def Method.name : Method → String
  | .get => "GET"
  | .post => "POST"
  | .delete => "DELETE"

/-- A request as it reaches a server. -/
structure Request where
  method : Method
  /-- The path and the query. -/
  target : String
  headers : List (String × String)
  body : Option Json

/-- What comes back for a request. -/
inductive Reply where
  | answer (status : Nat) (body : String)
  /-- The body ends before the length that was announced. -/
  | truncated (status : Nat)
  /-- The connection is closed without a reply. -/
  | closed
  /-- No connection is made. -/
  | refused
  /-- Nothing comes in time. -/
  | timedOut
deriving DecidableEq, Repr, Inhabited

/-- Does a request with this reply reach the server? -/
def Reply.isDelivered : Reply → Bool
  | .refused => false
  | _ => true

/-- A server with the replies it is going to give and the requests that reached it. -/
structure Server where
  replies : List Reply
  /-- The reply to every request after those. -/
  otherwise : Reply
  requests : List Request

namespace Server

/-- A server that gives some replies and then finds nothing any more. -/
def scripted (replies : List Reply) : Server := ⟨replies, .answer 404 "\x7b\"errors\":[]\x7d", []⟩

def unreachable : Server := ⟨[], .refused, []⟩

def send (r : Request) (s : Server) : Reply × Server :=
  let reply := s.replies.headD s.otherwise
  let requests := if reply.isDelivered then s.requests ++ [r] else s.requests
  (reply, ⟨s.replies.tail, s.otherwise, requests⟩)

end Server

end Converge.Http
