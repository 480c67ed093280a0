import Converge.CommandLine.Execution

/-!
# Executing a command reply by reply

What a command does depends on the replies to its requests alone. So a command that waits for a reply
need not be kept: with the reply at hand it is executed anew, and does the same up to there. A stage is
what an execution comes to with the replies of the moment, a closed connection standing for the one that
is still to come. As a closed connection is final, the pauses of a stage all lie before that request, and
the store of a stage is what will be there when it is made.
-/

namespace Converge.CommandLine

/-- What an execution comes to with the replies of the moment. -/
structure Stage where
  result : Except Failure Unit
  site : Site Http.Server
  /-- The first request without a reply. -/
  waiting : Option Http.Request

namespace Stage

/-- The first request to a server beyond some replies. -/
def firstBeyond (replies : List Http.Reply) (s : Http.Server) : Option Http.Request :=
  (s.requests.drop (replies.filter Http.Reply.isDelivered).length).head?

/-- The stage of an invocation after some replies. -/
def after (i : Invocation) (content : Except String String) (store : StateStore)
    (replies : List Http.Reply) : Stage :=
  let (result, site) := i.execute content ⟨⟨⟨replies, .closed, []⟩, []⟩, store⟩
  ⟨result, site, firstBeyond replies site.world.remote⟩

def paused (s : Stage) : Delay := s.site.world.journal.timeAfter Delay.zero

end Stage

end Converge.CommandLine
