import Converge.Schema.Basic

/-!
# Resolving field maps

Both what a user declares and what a server reports are brought into one form before they are compared:
values in the normal form of their attribute and of its type, defaults filled in on the declared side,
undeclared attributes dropped on the reported side, and the schema's canonicalizer on the whole map last.

A declaration is refused for its names first, in their order, and for its values after that, in the
order of the schema. On both sides a value whose normal form cannot be computed ends the resolution.
-/

namespace Converge

/-- Why a field map does not fit a schema. -/
inductive FieldError where
  | unknown (kind field : String)
  | invalid (field message : String)
  /-- The normal form of a value of the attribute cannot be computed. -/
  | overflow (field : String)
deriving DecidableEq, Repr

def FieldError.message : FieldError → String
  | .unknown kind field => "Unknown field '" ++ field ++ "' for resource kind '" ++ kind ++ "'"
  | .invalid field message => "Invalid value for field '" ++ field ++ "': " ++ message
  | .overflow _ => "overflow in Duration::new"

namespace FieldSpec

/-- `check_type`: the normal form of a value, if it has the type of the attribute. -/
def checkType (f : FieldSpec) (v : FieldValue) : Except FieldError FieldValue :=
  if f.overflowsOn v then .error (.overflow f.name)
  else
    let v := f.normalize v
    if v.type = f.type then .ok v
    else .error (.invalid f.name
      ("expected " ++ f.type.name ++ ", got " ++ v.type.name ++ " " ++ v.display))

/-- What the validator of the attribute says about a value in normal form. -/
def complaint (f : FieldSpec) (v : FieldValue) : Option String := f.validator.bind fun g => g v

/-- `check_desired`: the normal form of a declared value, if it has the right type and passes the validator. -/
def checkDesired (f : FieldSpec) (v : FieldValue) : Except FieldError FieldValue := do
  let v ← f.checkType v
  match f.complaint v with
  | some message => .error (.invalid f.name message)
  | none => return v

/-- The entry of the attribute in a declaration: the declared value or the default. -/
def desiredEntry (f : FieldSpec) (desired : FieldMap) : Except FieldError (Option FieldValue) :=
  match desired.get? f.name with
  | some v => (f.checkDesired v).map some
  | none => if f.defaultOverflows then .error (.overflow f.name) else .ok f.defaultValue

/-- The entry of the attribute in a reported map: the reported value. -/
def remoteEntry (f : FieldSpec) (remote : FieldMap) : Except FieldError (Option FieldValue) :=
  match remote.get? f.name with
  | some v => (f.checkType v).map some
  | none => .ok none

end FieldSpec

namespace Schema

/-- What is wrong with a name in a declaration: it is undeclared, or the server's to set. -/
def nameError (s : Schema) (name : String) : Option FieldError :=
  match s.field? name with
  | none => some (.unknown s.kind name)
  | some f =>
    if f.isComputed then
      some (.invalid name "field is computed by the API and cannot be configured")
    else none

/-- Collects the entries of a list of attributes into a map; the first error counts. -/
def collect (entry : FieldSpec → Except FieldError (Option FieldValue)) :
    List FieldSpec → FieldMap → Except FieldError FieldMap
  | [], acc => .ok acc
  | f :: fs, acc => do
    match ← entry f with
    | some v => collect entry fs (acc.insert f.name v)
    | none => collect entry fs acc

/-- `resolve_desired`: the declared state of every managed attribute, in normal form and with defaults. -/
def resolveDesired (s : Schema) (desired : FieldMap) : Except FieldError FieldMap := do
  match desired.keys.findSome? s.nameError with
  | some e => .error e
  | none =>
    let m ← collect (·.desiredEntry desired) s.fields SortedMap.empty
    return s.canonicalize m

/-- `resolve_remote`: the reported state of every declared attribute, in normal form. -/
def resolveRemote (s : Schema) (remote : FieldMap) : Except FieldError FieldMap := do
  let m ← collect (·.remoteEntry remote) s.fields SortedMap.empty
  return s.canonicalize m

end Schema

end Converge
