import Converge.Field.Codec
import Converge.Manifest.Basic

/-!
# Manifests as JSON

A manifest is an object with the list of its resources, and a resource an object with an address, a
kind and its fields; members of a resource that are not known are passed over. Both may also be written
as arrays of their members in this order. The first problem in the order of the text counts, whether
the text is malformed there or only not a manifest.

`Manifest.parse` reads a text and `Manifest.render` writes one.
-/

namespace Converge

open Json (Reader Problem fault mismatch skipBlank)

/-- The members of a resource that were read so far. -/
structure PartialDeclaration where
  address : Option String := none
  kind : Option String := none
  fields : Option FieldMap := none

def readText : Reader String := fun cs =>
  match skipBlank cs with
  | [] => fault .endInValue
  | '"' :: rest => (Json.readString rest).map fun (s, r) => (String.ofList s, r)
  | cs => FieldMap.wrongType "a string" cs

/-- Puts what was read into a member that must not be there yet. -/
def readOnce {α : Type} (name : String) (old : Option α) (read : Reader α) : Reader α := fun cs =>
  match old with
  | some _ => mismatch (.duplicateField name)
  | none => do
    let (_, cs) ← Json.readColon cs
    read cs

namespace Declaration

/-- Reads what follows the name of a member of a resource. -/
def readMember (bound depth : Nat) (acc : PartialDeclaration) (name : List Char) :
    Reader PartialDeclaration := fun cs => do
  match String.ofList name with
  | "address" =>
    let (v, cs) ← readOnce "address" acc.address readText cs
    return ({ acc with address := some v }, cs)
  | "kind" =>
    let (v, cs) ← readOnce "kind" acc.kind readText cs
    return ({ acc with kind := some v }, cs)
  | "fields" =>
    let (v, cs) ← readOnce "fields" acc.fields (FieldMap.read bound depth) cs
    return ({ acc with fields := some v }, cs)
  | _ =>
    let (_, cs) ← Json.readColon cs
    let (_, cs) ← Json.skipValue bound bound cs
    return (acc, cs)

/-- The resource of the members read; the fields may be missing. -/
def ofPartial (p : PartialDeclaration) : Except Problem Declaration :=
  match p.address, p.kind with
  | none, _ => mismatch (.missingField "address")
  | some _, none => mismatch (.missingField "kind")
  | some address, some kind => .ok ⟨address, kind, p.fields.getD SortedMap.empty⟩

/-- What a resource is, for the message that something else was found. -/
def expected : String := "struct ResourceDecl"

/-- Goes to the next item of an array after its first one, or to its end: none if there is no more. -/
def nextItem (cs : List Char) : Except Problem (Option (List Char)) :=
  match skipBlank cs with
  | [] => fault .endInList
  | ']' :: _ => .ok none
  | ',' :: rest =>
    match skipBlank rest with
    | [] => fault .endInValue
    | ']' :: _ => fault .trailingComma
    | rest => .ok (some rest)
  | _ => fault .expectedListCommaOrEnd

/-- Reads the end of an array whose items were all read. -/
def readEnd {α : Type} (v : α) (cs : List Char) : Except Problem (α × List Char) :=
  match skipBlank cs with
  | [] => fault .endInList
  | ']' :: rest => .ok (v, rest)
  | ',' :: rest =>
    match skipBlank rest with
    | ']' :: _ => fault .trailingComma
    | _ => fault .trailingCharacters
  | _ => fault .trailingCharacters

/-- The mismatch of an array with too few items. -/
def tooShort {α : Type} (n : Nat) : Except Problem α :=
  mismatch (.invalidLength n (expected ++ " with 3 elements"))

/-- Reads a resource written as an array, after the opening bracket. -/
def readArray (bound depth : Nat) : Reader Declaration := fun cs => do
  match skipBlank cs with
  | [] => fault .endInList
  | ']' :: _ => tooShort 0
  | cs =>
    let (address, cs) ← readText cs
    match ← nextItem cs with
    | none => tooShort 1
    | some cs =>
      let (kind, cs) ← readText cs
      match ← nextItem cs with
      | none => readEnd ⟨address, kind, SortedMap.empty⟩ cs
      | some cs =>
        let (fields, cs) ← FieldMap.read bound depth cs
        readEnd ⟨address, kind, fields⟩ cs

/-- Reads a resource. `depth` is one more than the number of brackets that may still be opened. -/
def read (bound depth : Nat) : Reader Declaration := fun cs =>
  match skipBlank cs with
  | [] => fault .endInValue
  | '\x7b' :: rest => do
    let (p, rest) ← Json.readObject (readMember bound (depth - 1)) bound true {} rest
    return (← ofPartial p, rest)
  | '[' :: rest => readArray bound (depth - 1) rest
  | cs => FieldMap.wrongType expected cs

def toJson (d : Declaration) : Json :=
  .object [("address", .string d.address), ("kind", .string d.kind), ("fields", FieldMap.toJson d.fields)]

end Declaration

namespace Manifest

def readResources (bound depth : Nat) : Reader (List Declaration) := fun cs =>
  match skipBlank cs with
  | [] => fault .endInValue
  | '[' :: rest => Json.readList (Declaration.read bound (depth - 1)) bound true rest
  | cs => FieldMap.wrongType "a sequence" cs

def readMember (bound depth : Nat) (acc : Option (List Declaration)) (name : List Char) :
    Reader (Option (List Declaration)) := fun cs => do
  match String.ofList name with
  | "resources" =>
    let (v, cs) ← readOnce "resources" acc (readResources bound depth) cs
    return (some v, cs)
  | other => mismatch (.unknownField other "resources")

/-- Reads a manifest. `depth` is one more than the number of brackets that may still be opened. -/
def read (bound depth : Nat) : Reader Manifest := fun cs =>
  match skipBlank cs with
  | [] => fault .endInValue
  | '\x7b' :: rest => do
    let (rs, rest) ← Json.readObject (readMember bound (depth - 1)) bound true none rest
    return (⟨rs.getD []⟩, rest)
  | '[' :: rest =>
    match skipBlank rest with
    | [] => fault .endInList
    | ']' :: rest => .ok (⟨[]⟩, rest)
    | rest => do
      let (rs, rest) ← readResources bound (depth - 1) rest
      Declaration.readEnd ⟨rs⟩ rest
  | cs => FieldMap.wrongType "struct Manifest" cs

/-- `Manifest::parse`. -/
def parse (text : String) : Except ManifestError Manifest :=
  (Json.readWhollyWith (fun bound => read bound Json.depthLimit) text).mapError .parse

def toJson (m : Manifest) : Json :=
  .object [("resources", .array (m.resources.map Declaration.toJson))]

def render (m : Manifest) : String := m.toJson.render

end Manifest

end Converge
