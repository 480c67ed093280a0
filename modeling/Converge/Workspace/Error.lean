import Converge.Manifest.Basic
import Converge.Reconcile.Error
import Converge.Workspace.StateStore

/-!
# Errors of a workspace
-/

namespace Converge

inductive WorkspaceError (ε : Type) where
  | manifest (e : ManifestError)
  | state (e : StateError)
  | reconcile (address : String) (e : ReconcileError ε)
  | unknownKind (kind : String)
  | noTransport (kind : String)
  | kindChanged (address recorded declared : String)
deriving DecidableEq

def WorkspaceError.message {ε : Type} [ToString ε] : WorkspaceError ε → String
  | .manifest e => e.message
  | .state e => "State store error: " ++ e.message
  | .reconcile address e => address ++ ": " ++ e.message
  | .unknownKind kind => "Unknown resource kind '" ++ kind ++ "'"
  | .noTransport kind => "No transport available for resource kind '" ++ kind ++ "'"
  | .kindChanged address recorded declared =>
    "Resource '" ++ address ++ "' is recorded as " ++ recorded ++ " but declared as " ++ declared
      ++ "; destroy it first"

end Converge
