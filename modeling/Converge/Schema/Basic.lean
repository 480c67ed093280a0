import Converge.Field.Value
import Converge.Field.Rule

/-!
# Schemas

A schema is the description of one kind of resource: which attributes it has, of which types, and what
a change to each costs. The names of its attributes are distinct and only truth values are latches;
**`Schema.ofFields`** builds a schema or says which of the two fails first.
-/

namespace Converge

/-- What a change to an attribute costs. -/
inductive Mutability where
  /-- A change means that the resource is replaced. -/
  | immutable
  /-- A change is made in place. -/
  | mutable
  /-- The attribute is read back and never sent. -/
  | computed
deriving DecidableEq, Repr

structure FieldSpec where
  name : String
  type : FieldType
  mutability : Mutability := .mutable
  default : Option FieldValue := none
  validator : Option Validator := none
  normalizer : Option Normalizer := none
  /-- Once true remotely, the value goes back to false only with a new resource. -/
  latch : Bool := false
  /-- The attribute goes along with every update, changed or not. -/
  alwaysSend : Bool := false

namespace FieldSpec

def normalize (f : FieldSpec) (v : FieldValue) : FieldValue :=
  match f.normalizer with
  | some n => n v
  | none => v

/-- Does the computation of the normal form of a value overflow? -/
def overflowsOn (f : FieldSpec) (v : FieldValue) : Bool :=
  match f.normalizer with
  | some n => n.overflows v
  | none => false

/-- `default_value`: the normal form of the default, if there is one. -/
def defaultValue (f : FieldSpec) : Option FieldValue := f.default.map f.normalize

/-- Does the computation of the normal form of the default overflow? -/
def defaultOverflows (f : FieldSpec) : Bool :=
  match f.default with
  | some v => f.overflowsOn v
  | none => false

/-- Does the schema leave the value of the attribute to the server? -/
def isComputed (f : FieldSpec) : Bool := f.mutability = .computed

end FieldSpec

/-- Why a list of attributes makes no schema. -/
inductive SchemaFault where
  | latchNotBool (kind field : String)
  | declaredTwice (kind field : String)
deriving DecidableEq, Repr

def SchemaFault.message : SchemaFault → String
  | .latchNotBool kind field => kind ++ ": latch on non-bool field '" ++ field ++ "'"
  | .declaredTwice kind field => kind ++ ": field '" ++ field ++ "' declared twice"

/-- `ResourceSchema`: the description of one kind of resource. -/
structure Schema where
  kind : String
  fields : List FieldSpec
  /-- Puts a whole field map into one spelling, where more than one attribute takes part in the choice. -/
  canonicalizer : Option (FieldMap → FieldMap) := none
  names_nodup : (fields.map (·.name)).Nodup
  latch_bool : ∀ f ∈ fields, f.latch = true → f.type = .bool

namespace Schema

/-- The first thing wrong with a list of attributes, given the names before it. -/
def firstFault (kind : String) (before : List String) : List FieldSpec → Option SchemaFault
  | [] => none
  | f :: fs =>
    if f.latch = true ∧ f.type ≠ .bool then some (.latchNotBool kind f.name)
    else if f.name ∈ before then some (.declaredTwice kind f.name)
    else firstFault kind (f.name :: before) fs

theorem firstFault_eq_none {kind : String} {before : List String} {fs : List FieldSpec}
    (h : firstFault kind before fs = none) :
    (fs.map (·.name)).Nodup ∧ (∀ f ∈ fs, f.name ∉ before) ∧
      ∀ f ∈ fs, f.latch = true → f.type = .bool := by
  induction fs generalizing before with
  | nil => simp
  | cons f fs ih =>
    simp only [firstFault] at h
    split at h
    · simp at h
    · rename_i hl
      split at h
      · simp at h
      · rename_i hb
        obtain ⟨hn, hd, ht⟩ := ih h
        refine ⟨?_, ?_, ?_⟩
        · refine List.nodup_cons.2 ⟨?_, hn⟩
          intro hm
          obtain ⟨g, hg, he⟩ := List.mem_map.1 hm
          exact hd g hg (he ▸ List.mem_cons_self)
        · intro g hg
          rcases List.mem_cons.1 hg with rfl | hg
          · exact hb
          · exact fun hm => hd g hg (List.mem_cons_of_mem _ hm)
        · intro g hg hlatch
          rcases List.mem_cons.1 hg with rfl | hg
          · exact Decidable.byContradiction fun hne => hl ⟨hlatch, hne⟩
          · exact ht g hg hlatch

/-- `ResourceSchema::new`: the schema of a list of attributes, or the first thing that is wrong with it. -/
def ofFields (kind : String) (fields : List FieldSpec) : Except SchemaFault Schema :=
  match h : firstFault kind [] fields with
  | some fault => .error fault
  | none =>
    .ok ⟨kind, fields, none, (firstFault_eq_none h).1, (firstFault_eq_none h).2.2⟩

def field? (s : Schema) (name : String) : Option FieldSpec := s.fields.find? fun f => f.name = name

/-- Puts a field map whose values are in normal form into its one spelling. -/
def canonicalize (s : Schema) (m : FieldMap) : FieldMap :=
  match s.canonicalizer with
  | some f => f m
  | none => m

end Schema

/-- `SchemaRegistry`: every kind of resource that is known, by name. -/
abbrev Registry := SortedMap Schema

namespace Registry

/-- Adds a schema; one of the same kind goes. -/
def register (r : Registry) (s : Schema) : Registry := r.insert s.kind s

def ofSchemas (schemas : List Schema) : Registry := schemas.foldl register SortedMap.empty

end Registry

end Converge
