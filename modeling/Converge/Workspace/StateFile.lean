import Converge.Json.Printer
import Converge.Json.Reader
import Converge.Workspace.StateStore

/-!
# State files

A state store as a text: a JSON array with an object for each record, in the order of the addresses.
`StateStore.parse` reads what `StateStore.render` writes.
-/

namespace Converge.StateStore

def rowJson (address : String) (row : StoredRow) : Json :=
  .object [("address", .string address), ("kind", .string row.kind),
    ("remote_id", .string row.remoteId), ("fields", .string row.fieldsText)]

def render (s : StateStore) : String :=
  (Json.array (s.rows.entries.map fun e => rowJson e.1 e.2)).render

def rowOfJson? (j : Json) : Option (String × StoredRow) := do
  let address ← (j.get? "address").bind Json.string?
  let kind ← (j.get? "kind").bind Json.string?
  let remoteId ← (j.get? "remote_id").bind Json.string?
  let fieldsText ← (j.get? "fields").bind Json.string?
  return (address, ⟨kind, remoteId, fieldsText⟩)

def parse? (text : String) : Option StateStore :=
  match Json.parse text with
  | .ok (.array items) => (items.mapM rowOfJson?).map fun rows => ⟨SortedMap.ofList rows⟩
  | _ => none

end Converge.StateStore
