import Converge.Field.Codec

/-!
# Fields on the wire

How the attributes of a resource are written into the body of a request and read back out of a reply.
A reply holds its attributes under `data`, or at the top level; an error reply holds a list of messages
under `errors`.
-/

namespace Converge.Vault

/-- `error_message`: the first message of an error reply; the text itself if it does not hold one. -/
def errorMessage (body : String) : String :=
  match Json.parse body with
  | .ok v =>
    match (v.get? "errors").bind Json.items? with
    | some (.string m :: _) => m
    | _ => body
  | .error _ => body

/-- `response_data`: the object that holds the attributes of a reply. -/
def responseData (response : Json) : Json :=
  match response.get? "data" with
  | some data => if data.isObject then data else response
  | none => response

/-- `read_fields`: copies the listed attributes of a reply into a map; one that is missing or of no known shape is
left as it is. -/
def readFields (source : Json) (names : List String) (target : FieldMap) : FieldMap :=
  names.foldl (fun m name =>
    match (source.get? name).bind FieldValue.ofShape? with
    | some v => m.insert name v
    | none => m) target

/-- A value in a request; a duration is a number of seconds with its unit. -/
def wireValue (isDuration : Bool) : FieldValue → Json
  | .int i => if isDuration then .string (Number.intText i.toInt ++ "s") else (FieldValue.int i).toJson
  | v => v.toJson

/-- `write_fields`: the listed attributes of a map as the members of a request. -/
def writeFields (fields : FieldMap) (names durations : List String) : SortedMap Json :=
  names.foldl (fun body name =>
    match fields.get? name with
    | some v => body.insert name (wireValue (durations.contains name) v)
    | none => body) SortedMap.empty

end Converge.Vault
