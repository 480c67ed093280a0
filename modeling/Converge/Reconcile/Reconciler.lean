import Converge.Plan
import Converge.Reconcile.Error
import Converge.Reconcile.Retry

/-!
# Reconciling one resource

A reconciler brings the resources of one kind in line with their declarations. It keeps nothing between
two calls: **`Reconciler.reconcile`** checks the declaration, reads the resource, makes a plan and
applies it. Nothing is read before the declaration is found to be valid, and a replacement deletes
before it creates.
-/

namespace Converge

/-- `ApplyOutcome`: what was done to a resource. -/
inductive Outcome where
  | unchanged
  | created (id : String)
  /-- `movedTo` is the new id, if the update moved the resource. -/
  | updated (fields : List String) (movedTo : Option String)
  | replaced (previous id : String)
deriving DecidableEq

namespace Outcome

/-- The id of the resource after it was created, replaced or moved. -/
def newId : Outcome → Option String
  | .unchanged => none
  | .created id => some id
  | .updated _ movedTo => movedTo
  | .replaced _ id => some id

/-- The text that the log shows of an outcome. -/
def text : Outcome → String
  | .unchanged => "Unchanged"
  | .created id => "Created \x7b id: " ++ Text.quote id ++ " \x7d"
  | .updated fields movedTo =>
    "Updated \x7b fields: " ++ Text.quoteList fields ++ ", moved_to: "
      ++ (match movedTo with
          | some id => "Some(" ++ Text.quote id ++ ")"
          | none => "None")
      ++ " \x7d"
  | .replaced previous id =>
    "Replaced \x7b previous: " ++ Text.quote previous ++ ", id: " ++ Text.quote id ++ " \x7d"

end Outcome

/-- Reconciles the resources of one kind. -/
structure Reconciler where
  schema : Schema
  retry : RetryPolicy

namespace Reconciler

variable {σ ε : Type} [ToString ε]

def named (s : String) : String := "'" ++ s ++ "'"

/-- Makes a call until it succeeds. -/
def retried {α : Type} (r : Reconciler) (t : Transport σ ε) (what : String) (c : Call)
    (op : Interaction σ ε α) : Run σ (Exhausted ε) α :=
  Retried.run ⟨r.retry, r.schema.kind, what, c, op, t.retryable⟩

def read (r : Reconciler) (t : Transport σ ε) (id : String) :
    Run σ (ReconcileError ε) (Option FieldMap) :=
  (r.retried t "read" (.read id) (t.read id)).mapError fun e => .read e.attempts e.error

def create (r : Reconciler) (t : Transport σ ε) (desired : FieldMap)
    (wrap : Exhausted ε → ReconcileError ε) : Run σ (ReconcileError ε) String :=
  (r.retried t "create" (.create desired) (t.create desired)).mapError wrap

def delete (r : Reconciler) (t : Transport σ ε) (id : String)
    (wrap : Exhausted ε → ReconcileError ε) : Run σ (ReconcileError ε) Unit :=
  (r.retried t "delete" (.delete id) (t.delete id)).mapError wrap

def write (r : Reconciler) (t : Transport σ ε) (id : String) (payload : FieldMap) :
    Run σ (ReconcileError ε) (Option String) :=
  (r.retried t "update" (.write id payload) (t.write id payload)).mapError fun e =>
    .apply .update e.attempts e.error

/-- Does what an action says. -/
def applyAction (r : Reconciler) (t : Transport σ ε) (id : Option String) :
    Action → Run σ (ReconcileError ε) Outcome
  | .noop => return .unchanged
  | .create desired => do
    let newId ← r.create t desired fun e => .apply .create e.attempts e.error
    Run.log .info ("Created " ++ r.schema.kind ++ " " ++ named newId)
    return .created newId
  | .update changed accompanying => do
    match id with
    | none => throw (.missingId .update)
    | some id =>
      let movedTo ← r.write t id (updatePayload changed accompanying)
      match movedTo with
      | some newId =>
        Run.log .info ("Moved " ++ r.schema.kind ++ " " ++ named id ++ " to " ++ named newId)
      | none => Run.log .info ("Updated " ++ r.schema.kind ++ " " ++ named id ++ " in place")
      return .updated changed.keys movedTo
  | .replace reason desired => do
    match id with
    | none => throw (.missingId .delete)
    | some id =>
      Run.log .warn ("Replacing " ++ r.schema.kind ++ " " ++ named id ++ ": field " ++ named reason
        ++ " cannot change in place")
      r.delete t id fun e => .replacement .delete e.attempts e.error
      let newId ← r.create t desired fun e => .replacement .create e.attempts e.error
      Run.log .info ("Replaced " ++ r.schema.kind ++ " " ++ named id ++ " with " ++ named newId)
      return .replaced id newId

/-- Does what a list of actions says, one after the other; the last outcome counts. -/
def applyActions (r : Reconciler) (t : Transport σ ε) (id : Option String) :
    List Action → Outcome → Run σ (ReconcileError ε) Outcome
  | [], last => return last
  | a :: rest, _ => do
    let outcome ← r.applyAction t id a
    r.applyActions t id rest outcome

/-- `Reconciler::apply`: carries out a plan. -/
def apply (r : Reconciler) (t : Transport σ ε) (plan : Plan) (id : Option String) :
    Run σ (ReconcileError ε) Outcome :=
  r.applyActions t id plan.actions .unchanged

def plan (r : Reconciler) (desired : FieldMap) (remote : Option FieldMap) :
    Except (ReconcileError ε) Plan :=
  (Plan.compute r.schema desired remote).mapError .field

/-- Reads the resource of an id, if there is one. -/
def readKnown (r : Reconciler) (t : Transport σ ε) :
    Option String → Run σ (ReconcileError ε) (Option FieldMap)
  | none => return none
  | some id => r.read t id

/-- `Reconciler::reconcile`: brings a resource in line with its declaration. `id` is the last known id, none if the
resource was never created. -/
def reconcile (r : Reconciler) (t : Transport σ ε) (id : Option String) (desired : FieldMap) :
    Run σ (ReconcileError ε) Outcome := do
  let _ ← Run.ofExcept ((r.schema.resolveDesired desired).mapError .field)
  let remote ← r.readKnown t id
  match id, remote with
  | some id, none =>
    Run.log .warn (r.schema.kind ++ " " ++ named id ++ " not found remotely, it will be recreated")
  | _, _ => pure ()
  let plan ← Run.ofExcept (r.plan desired remote)
  Run.log .info (r.schema.kind ++ " " ++ id.getD "<new>" ++ ": " ++ plan.summary)
  r.apply t plan id

/-- `Reconciler::destroy`: deletes a resource for good. -/
def destroy (r : Reconciler) (t : Transport σ ε) (id : String) :
    Run σ (ReconcileError ε) Unit := do
  r.delete t id fun e => .apply .delete e.attempts e.error
  Run.log .info ("Destroyed " ++ r.schema.kind ++ " " ++ named id)

end Reconciler

end Converge
