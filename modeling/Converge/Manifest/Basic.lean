import Converge.Json.Fault
import Converge.Schema.Basic
import Converge.Text.CodePoint

/-!
# Manifests

A manifest lists the declared resources in the order in which they are applied. `Manifest.validate`
checks the addresses and kinds; the attributes are checked when a resource is planned.
-/

namespace Converge

/-- `ResourceDecl`: a declared resource. -/
structure Declaration where
  address : String
  kind : String
  fields : FieldMap
deriving DecidableEq

/-- The declared resources, in order. -/
structure Manifest where
  resources : List Declaration
deriving DecidableEq

inductive ManifestError where
  /-- The file cannot be read. -/
  | unreadable (path cause : String)
  | parse (problem : Json.Problem)
  | duplicateAddress (address : String)
  | unknownKind (address kind : String)
  | emptyAddress
deriving DecidableEq

def ManifestError.message : ManifestError → String
  | .unreadable path cause => "Failed to read manifest " ++ path ++ ": " ++ cause
  | .parse problem => "Invalid manifest: " ++ problem.message
  | .duplicateAddress address => "Duplicate resource address '" ++ address ++ "'"
  | .unknownKind address kind => "Resource '" ++ address ++ "' has unknown kind '" ++ kind ++ "'"
  | .emptyAddress => "Resource address must not be empty"

namespace Manifest

/-- The first thing wrong with a list of declarations, given the addresses before it. -/
def firstError (registry : Registry) (before : List String) : List Declaration → Option ManifestError
  | [] => none
  | d :: ds =>
    if Text.isBlank d.address then some .emptyAddress
    else if d.address ∈ before then some (.duplicateAddress d.address)
    else if !registry.contains d.kind then some (.unknownKind d.address d.kind)
    else firstError registry (d.address :: before) ds

/-- `Manifest::validate`: the addresses are distinct and not blank, and every kind is known. -/
def validate (m : Manifest) (registry : Registry) : Except ManifestError Unit :=
  match firstError registry [] m.resources with
  | some e => .error e
  | none => .ok ()

end Manifest

end Converge
