import Converge.Field.Value
import Converge.Json.Reader
import Converge.Json.Printer

/-!
# Field values as JSON

Two ways from JSON to a field value. The strict one, `FieldValue.ofJson?`, is for what the user and the
library itself write: a value is read only if it has exactly the shape of one. The lenient one,
`FieldValue.ofShape?`, is for what a server reports: it turns the scalars of a list or an object into
strings. The way back is `FieldValue.toJson`.
-/

namespace Converge

/-- The whole number as a 64-bit signed one, if it is in range. -/
def int64? (i : Int) : Option Int64 :=
  if -9223372036854775808 ≤ i ∧ i < 9223372036854775808 then some (Int64.ofInt i) else none

namespace FieldValue

/-- The pairs of an object in which every value passes the test, none if one does not. -/
def pairs? (f : Json → Option String) (ms : List (String × Json)) : Option (List (String × String)) :=
  ms.mapM fun m => (f m.2).map fun s => (m.1, s)

/-- The field value of exactly this shape: a list and an object may hold strings only. -/
def ofJson? : Json → Option FieldValue
  | .null => none
  | .bool b => some (.bool b)
  | .number n => (n.toInt?.bind int64?).map .int
  | .string s => some (.string s)
  | .array items => (items.mapM Json.string?).map .list
  | .object ms => (pairs? Json.string? ms).map fun es => .map (SortedMap.ofList es)

/-- `scalar_to_string`. -/
def scalarText? : Json → Option String
  | .string s => some s
  | .number n => some n.text
  | .bool b => some (if b then "true" else "false")
  | _ => none

/-- `field_value_from_json`: the field value nearest to a reported one. The scalars of a list or an object become
strings. -/
def ofShape? : Json → Option FieldValue
  | .null => none
  | .bool b => some (.bool b)
  | .number n => (n.toInt?.bind int64?).map .int
  | .string s => some (.string s)
  | .array items => (items.mapM scalarText?).map .list
  | .object ms => (pairs? scalarText? ms).map fun es => .map (SortedMap.ofList es)

def toJson : FieldValue → Json
  | .bool b => .bool b
  | .int i => .number (.int i.toInt)
  | .string s => .string s
  | .list xs => Json.ofStrings xs
  | .map m => Json.ofMap (m.mapValues .string)

end FieldValue

/-- What a JSON value is, for the message that it is not what was asked for. -/
def Json.found : Json → Json.Found
  | .null => .null
  | .bool b => .bool b
  | .number n => .number n
  | .string s => .string s
  | .array _ => .array
  | .object _ => .object

namespace FieldMap

/-- The mismatch of a value that is no field value. -/
def notFieldValue : Json.Mismatch := .noVariant "FieldValue"

def decodeValue (v : Json) : Except Json.Mismatch FieldValue :=
  match FieldValue.ofJson? v with
  | some x => .ok x
  | none => .error notFieldValue

def ofJson (v : Json) : Except Json.Mismatch FieldMap :=
  match v with
  | .object ms => do
    let es ← ms.mapM fun m => (decodeValue m.2).map fun x => (m.1, x)
    return SortedMap.ofList es
  | v => .error (.invalidType v.found "a map")

def toJson (m : FieldMap) : Json := Json.ofMap (m.mapValues FieldValue.toJson)

def toText (m : FieldMap) : String := m.toJson.render

open Json (Reader Problem mismatch)

/-- Fails with the mismatch between a value of the text and what is expected in its place. Of a list or
an object only the opening bracket is looked at. -/
def wrongType {α : Type} (expected : String) (cs : List Char) : Except Problem (α × List Char) :=
  match cs with
  | '[' :: _ => mismatch (.invalidType .array expected)
  | '\x7b' :: _ => mismatch (.invalidType .object expected)
  | cs => do
    let (v, _) ← Json.readValue 0 1 cs
    mismatch (.invalidType v.found expected)

/-- Reads a field map off a text. `depth` is one more than the number of brackets that may still be
opened. -/
def read (bound depth : Nat) : Reader FieldMap := fun cs =>
  match Json.skipBlank cs with
  | [] => Json.fault .endInValue
  | '\x7b' :: rest =>
    if depth ≤ 1 then Json.fault .tooDeep
    else
      let member (acc : FieldMap) (name : List Char) : Reader FieldMap := fun cs => do
        let (_, cs) ← Json.readColon cs
        let (v, cs) ← Json.readValue bound (depth - 1) cs
        match FieldValue.ofJson? v with
        | some x => return (acc.insert (String.ofList name) x, cs)
        | none => mismatch notFieldValue
      Json.readObject member bound true SortedMap.empty rest
  | cs => wrongType "a map" cs

def parse (text : String) : Except Problem FieldMap :=
  Json.readWhollyWith (fun bound => read bound Json.depthLimit) text

end FieldMap

end Converge
