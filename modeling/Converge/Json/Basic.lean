import Converge.Json.Number
import Converge.SortedMap

/-!
# JSON values

A JSON value as a text holds it: the members of an object stand in the order of the text and may repeat
a name. `Json.canonical` sorts the members of every object by name and keeps the last of each name; a
canonical value is what most of the library works with.
-/

namespace Converge

inductive Json where
  | null
  | bool (b : Bool)
  | number (n : Number)
  | string (s : String)
  | array (items : List Json)
  | object (members : List (String × Json))
deriving Inhabited, Repr

namespace Json

/-- The object with the entries of a map as its members. -/
def ofMap (m : SortedMap Json) : Json := .object m.entries

/-- The members of a list sorted by name, the last one of each name. -/
def sortMembers (ms : List (String × Json)) : List (String × Json) := (SortedMap.ofList ms).entries

mutual

/-- The value with the members of every object sorted and without repetition. -/
def canonical : Json → Json
  | .array items => .array (canonicalItems items)
  | .object members => .object (sortMembers (canonicalMembers members))
  | .null => .null
  | .bool b => .bool b
  | .number n => .number n
  | .string s => .string s

def canonicalItems : List Json → List Json
  | [] => []
  | v :: r => v.canonical :: canonicalItems r

def canonicalMembers : List (String × Json) → List (String × Json)
  | [] => []
  | (k, v) :: r => (k, v.canonical) :: canonicalMembers r

end

/-- The member of an object under a name; of several the last. -/
def get? (v : Json) (name : String) : Option Json :=
  match v with
  | .object members => SortedMap.lookup name members.reverse
  | _ => none

def string? : Json → Option String
  | .string s => some s
  | _ => none

def items? : Json → Option (List Json)
  | .array items => some items
  | _ => none

def isObject : Json → Bool
  | .object _ => true
  | _ => false

def ofStrings (xs : List String) : Json := .array (xs.map .string)

end Json

end Converge
