import Converge.Delay
import Converge.Field.Value

/-!
# Journals

What happened, in order: the calls that were made to a remote and whether they succeeded, the lines
that were logged and the pauses that were made. Everything that can be said about the course of a run
is a view of its journal: `calls`, `lines`, `timedCalls`.
-/

namespace Converge

inductive Level where
  | info
  | warn
  | error
deriving DecidableEq, Repr

def Level.name : Level → String
  | .info => "INFO"
  | .warn => "WARN"
  | .error => "ERROR"

/-- A line that is logged or a pause that is made. -/
inductive Note where
  | line (level : Level) (text : String)
  | pause (d : Delay)
deriving DecidableEq

inductive Call where
  | read (id : String)
  | write (id : String) (payload : FieldMap)
  | delete (id : String)
  | create (desired : FieldMap)
deriving DecidableEq

def Call.isMutating : Call → Bool
  | .read _ => false
  | _ => true

inductive Event where
  | note (n : Note)
  | call (c : Call) (succeeded : Bool)
deriving DecidableEq

/-- What happened, the first thing first. -/
abbrev Journal := List Event

namespace Journal

def calls (j : Journal) : List Call :=
  j.filterMap fun e => match e with
    | .call c _ => some c
    | .note _ => none

/-- The calls with their success, in order. -/
def outcomes (j : Journal) : List (Call × Bool) :=
  j.filterMap fun e => match e with
    | .call c ok => some (c, ok)
    | .note _ => none

def lines (j : Journal) : List (Level × String) :=
  j.filterMap fun e => match e with
    | .note (.line level text) => some (level, text)
    | _ => none

def pauses (j : Journal) : List Delay :=
  j.filterMap fun e => match e with
    | .note (.pause d) => some d
    | _ => none

/-- The time after all pauses, given the time before them. -/
def timeAfter (start : Delay) (j : Journal) : Delay :=
  j.pauses.foldl (fun t d => t + d.waited) start

/-- The calls, each with the time that passed in pauses before it. -/
def timedCalls (start : Delay) : Journal → List (Delay × Call)
  | [] => []
  | .call c _ :: j => (start, c) :: timedCalls start j
  | .note (.pause d) :: j => timedCalls (start + d.waited) j
  | .note (.line _ _) :: j => timedCalls start j

end Journal

end Converge
