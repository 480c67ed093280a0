import Converge.Json.Number
import Converge.SortedMap
import Converge.Text.Quoted

/-!
# Field values

The values that the attributes of a resource can have, and maps of them by attribute name. A value is
shown in messages by `FieldValue.display`.
-/

namespace Converge

inductive FieldType where
  | string
  | bool
  | int
  | list
  | map
deriving DecidableEq, Repr

/-- The name of a type in messages. -/
def FieldType.name : FieldType → String
  | .string => "string"
  | .bool => "bool"
  | .int => "integer"
  | .list => "list of strings"
  | .map => "map of strings"

inductive FieldValue where
  | bool (b : Bool)
  | int (i : Int64)
  | string (s : String)
  | list (xs : List String)
  | map (m : SortedMap String)
deriving DecidableEq

namespace FieldValue

def type : FieldValue → FieldType
  | .bool _ => .bool
  | .int _ => .int
  | .string _ => .string
  | .list _ => .list
  | .map _ => .map

def bool? : FieldValue → Option Bool
  | .bool b => some b
  | _ => none

def int? : FieldValue → Option Int64
  | .int i => some i
  | _ => none

def string? : FieldValue → Option String
  | .string s => some s
  | _ => none

def list? : FieldValue → Option (List String)
  | .list xs => some xs
  | _ => none

def map? : FieldValue → Option (SortedMap String)
  | .map m => some m
  | _ => none

/-- The value as messages show it; strings are quoted. -/
def display : FieldValue → String
  | .bool b => if b then "true" else "false"
  | .int i => Number.intText i.toInt
  | .string s => Text.quote s
  | .list xs => Text.quoteList xs
  | .map m => Text.quotePairs m.entries

end FieldValue

/-- The attributes of a resource by name. -/
abbrev FieldMap := SortedMap FieldValue

namespace FieldMap

def string? (m : FieldMap) (name : String) : Option String := (m.get? name).bind FieldValue.string?

def map? (m : FieldMap) (name : String) : Option (SortedMap String) :=
  (m.get? name).bind FieldValue.map?

theorem string?_eq_some {m : FieldMap} {name s : String} :
    m.string? name = some s ↔ m.get? name = some (.string s) := by
  unfold string?
  rcases m.get? name with _ | (_ | _ | _ | _ | _) <;> simp [FieldValue.string?]

theorem map?_eq_some {m : FieldMap} {name : String} {o : SortedMap String} :
    m.map? name = some o ↔ m.get? name = some (.map o) := by
  unfold map?
  rcases m.get? name with _ | (_ | _ | _ | _ | _) <;> simp [FieldValue.map?]

end FieldMap

end Converge
