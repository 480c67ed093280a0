import Converge.Schema.Resolve

/-!
# Errors of a reconciliation

The type of the transport's own errors is left open: a reconciliation error carries the last of them.
-/

namespace Converge

/-- `ActionKind`: the kinds of change to a remote. -/
inductive ChangeKind where
  | create
  | update
  | delete
deriving DecidableEq, Repr

def ChangeKind.name : ChangeKind → String
  | .create => "create"
  | .update => "update"
  | .delete => "delete"

/-- The two halves of a replacement. Once the deletion is done the old resource is gone. -/
inductive ReplaceStep where
  | delete
  | create
deriving DecidableEq, Repr

def ReplaceStep.name : ReplaceStep → String
  | .delete => "delete"
  | .create => "create"

inductive ReconcileError (ε : Type) where
  | field (e : FieldError)
  | missingId (change : ChangeKind)
  | read (attempts : Nat) (source : ε)
  | apply (change : ChangeKind) (attempts : Nat) (source : ε)
  | replacement (step : ReplaceStep) (attempts : Nat) (source : ε)
deriving DecidableEq

namespace ReconcileError

variable {ε : Type}

/-- What the transport said last, if it was asked. -/
def source? : ReconcileError ε → Option ε
  | .read _ source => some source
  | .apply _ _ source => some source
  | .replacement _ _ source => some source
  | _ => none

/-- `is_partial_replacement`: was the old resource deleted without the new one being created? -/
def isPartialReplacement : ReconcileError ε → Bool
  | .replacement .create _ _ => true
  | _ => false

/-- The end of a message about a failed call. -/
def afterAttempts [ToString ε] (attempts : Nat) (source : ε) : String :=
  " after " ++ Number.intText attempts ++ " attempt(s): " ++ toString source

def message [ToString ε] : ReconcileError ε → String
  | .field e => e.message
  | .missingId change => "Cannot " ++ change.name ++ " without a resource id"
  | .read attempts source => "Reading remote state failed" ++ afterAttempts attempts source
  | .apply change attempts source => change.name ++ " failed" ++ afterAttempts attempts source
  | .replacement step attempts source =>
    "Replacement failed at the " ++ step.name ++ " step" ++ afterAttempts attempts source

end ReconcileError

end Converge
