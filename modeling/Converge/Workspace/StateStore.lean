import Converge.Field.Codec

/-!
# The state store

What is remembered about the resources of a workspace: for each address the kind and the remote id of
the resource and the fields that were last applied. The fields are kept as JSON text, so what is loaded
was read back from a text; a text that cannot be read makes the record corrupt.
-/

namespace Converge

/-- What is remembered about a resource. -/
structure ResourceRecord where
  address : String
  kind : String
  remoteId : String
  /-- The declared fields as last applied. -/
  fields : FieldMap
deriving DecidableEq

/-- A record as it is kept. -/
structure StoredRow where
  kind : String
  remoteId : String
  fieldsText : String
deriving DecidableEq

inductive StateError where
  | corrupt (address : String) (problem : Json.Problem)
deriving DecidableEq

def StateError.message : StateError → String
  | .corrupt address problem => "Corrupt state for '" ++ address ++ "': " ++ problem.message

structure StateStore where
  rows : SortedMap StoredRow
deriving DecidableEq

namespace StateStore

def empty : StateStore := ⟨SortedMap.empty⟩

/-- `StateStore::save`: saves a record, over the one that was there. -/
def save (s : StateStore) (r : ResourceRecord) : StateStore :=
  ⟨s.rows.insert r.address ⟨r.kind, r.remoteId, r.fields.toText⟩⟩

def decode (address : String) (row : StoredRow) : Except StateError ResourceRecord :=
  match FieldMap.parse row.fieldsText with
  | .ok fields => .ok ⟨address, row.kind, row.remoteId, fields⟩
  | .error p => .error (.corrupt address p)

/-- `StateStore::load`: the record of an address, if there is one. -/
def load (s : StateStore) (address : String) : Except StateError (Option ResourceRecord) :=
  match s.rows.get? address with
  | none => .ok none
  | some row => (decode address row).map some

def contains (s : StateStore) (address : String) : Bool := s.rows.contains address

/-- `StateStore::remove`. -/
def remove (s : StateStore) (address : String) : StateStore := ⟨s.rows.erase address⟩

/-- `StateStore::list`: every record, in the order of the addresses. -/
def list (s : StateStore) : Except StateError (List ResourceRecord) :=
  s.rows.entries.mapM fun e => decode e.1 e.2

/-- Puts another text in the place of the fields of an address; nothing happens if there is none. -/
def setText (s : StateStore) (address text : String) : StateStore :=
  match s.rows.get? address with
  | some row => ⟨s.rows.insert address { row with fieldsText := text }⟩
  | none => s

end StateStore

end Converge
