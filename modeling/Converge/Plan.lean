import Converge.Schema.Resolve

/-!
# Plans

A plan says what has to be done to bring a reported resource in line with a declaration. A managed
attribute has drifted when its declared value differs from the reported one, where an attribute that
the server leaves out is taken to hold its default. Drift that cannot be mended in place replaces the
whole resource, and the first such attribute in schema order is the reason.

**`Plan.compute`** makes the plan, and `Plan.drifts` lists the drift that it looked at.
-/

namespace Converge

/-- One step that brings a resource in line with its declaration. -/
inductive Action where
  /-- Nothing is to be done. -/
  | noop
  /-- The resource does not exist yet. -/
  | create (desired : FieldMap)
  /-- Some attributes are changed in place; `accompanying` are unchanged ones that go along. -/
  | update (changed accompanying : FieldMap)
  /-- The resource is deleted and created anew, because of the attribute `reason`. -/
  | replace (reason : String) (desired : FieldMap)
deriving DecidableEq

namespace Action

def isNoop : Action → Bool
  | .noop => true
  | _ => false

def isDestructive : Action → Bool
  | .replace _ _ => true
  | _ => false

/-- The attributes that the action changes in place, in increasing order. -/
def changedFields : Action → List String
  | .update changed _ => changed.keys
  | _ => []

/-- The attribute that makes the action replace the resource. -/
def reason? : Action → Option String
  | .replace reason _ => some reason
  | _ => none

def summary : Action → String
  | .noop => "no changes"
  | .create _ => "create"
  | .update changed _ => "update in place (" ++ ", ".intercalate changed.keys ++ ")"
  | .replace reason _ => "replace (forced by '" ++ reason ++ "')"

end Action

/-- `ReconciliationPlan`: the actions for one resource, in order. -/
structure Plan where
  actions : List Action
deriving DecidableEq

/-- An attribute whose declared value differs from the reported one. -/
structure Drift where
  field : FieldSpec
  held : Option FieldValue
  want : FieldValue

namespace Drift

/-- Would the change release a latch: from true back to false? -/
def releasesLatch (d : Drift) : Bool :=
  d.field.latch && d.held == some (.bool true) && d.want == .bool false

/-- Can the drift be mended only by a new resource? -/
def forcesReplace (d : Drift) : Bool := d.field.mutability = .immutable || d.releasesLatch

def message (kind : String) (d : Drift) : String :=
  kind ++ ": field '" ++ d.field.name ++ "' drifted ("
    ++ (match d.held with
        | some v => v.display
        | none => "unset")
    ++ " -> " ++ d.want.display ++ ")"

end Drift

/-- The drift of one attribute between two resolved maps, if it is managed and has drifted. -/
def FieldSpec.drift? (f : FieldSpec) (desired remote : FieldMap) : Option Drift :=
  if f.isComputed then none
  else match desired.get? f.name with
    | none => none
    | some want =>
      let held := (remote.get? f.name).or f.defaultValue
      if held = some want then none else some ⟨f, held, want⟩

/-- Does the comparison of the attribute need its default, whose normal form cannot be computed? -/
def FieldSpec.isStuck (f : FieldSpec) (desired remote : FieldMap) : Bool :=
  !f.isComputed && desired.contains f.name && !remote.contains f.name && f.defaultOverflows

namespace Schema

/-- The drift between two resolved maps, in schema order. -/
def drifts (s : Schema) (desired remote : FieldMap) : List Drift :=
  s.fields.filterMap fun f => f.drift? desired remote

/-- The first attribute whose comparison is stuck; a drift before it that forces a replacement ends the
comparison. -/
def stuck? (desired remote : FieldMap) : List FieldSpec → Option FieldSpec
  | [] => none
  | f :: fs =>
    if f.isStuck desired remote then some f
    else if ((f.drift? desired remote).map (·.forcesReplace)).getD false then none
    else stuck? desired remote fs

/-- The unchanged attributes that go along with an update. -/
def accompanying (s : Schema) (desired changed : FieldMap) : FieldMap :=
  SortedMap.ofList (s.fields.filterMap fun f =>
    if f.alwaysSend && !changed.contains f.name then
      (desired.get? f.name).map fun v => (f.name, v)
    else none)

/-- The action that mends the drift between two resolved maps. -/
def action (s : Schema) (desired remote : FieldMap) : Action :=
  let drifts := s.drifts desired remote
  match drifts.find? (·.forcesReplace) with
  | some d => .replace d.field.name desired
  | none =>
    if drifts.isEmpty then .noop
    else
      let changed := SortedMap.ofList (drifts.map fun d => (d.field.name, d.want))
      .update changed (s.accompanying desired changed)

end Schema

namespace Plan

def single (a : Action) : Plan := ⟨[a]⟩

/-- `plan`: the plan for a declaration and a reported map, which is none if there is no resource. -/
def compute (s : Schema) (desired : FieldMap) (remote : Option FieldMap) :
    Except FieldError Plan := do
  let desired ← s.resolveDesired desired
  match remote with
  | none => return single (.create desired)
  | some remote =>
    let remote ← s.resolveRemote remote
    match Schema.stuck? desired remote s.fields with
    | some f => throw (.overflow f.name)
    | none => return single (s.action desired remote)

/-- The drift that the comparison looks at: all of it, or up to the first that forces a replacement. -/
def examined : List Drift → List Drift
  | [] => []
  | d :: ds => if d.forcesReplace then [d] else d :: examined ds

/-- The drift that making a plan looks at. -/
def drifts (s : Schema) (desired : FieldMap) (remote : Option FieldMap) : List Drift :=
  match s.resolveDesired desired, remote.map s.resolveRemote with
  | .ok desired, some (.ok remote) => examined (s.drifts desired remote)
  | _, _ => []

def isNoop (p : Plan) : Bool := p.actions.all (·.isNoop)

def isDestructive (p : Plan) : Bool := p.actions.any (·.isDestructive)

def changedFields (p : Plan) : List String := p.actions.flatMap (·.changedFields)

def reason? (p : Plan) : Option String := p.actions.findSome? (·.reason?)

def summary (p : Plan) : String := "; ".intercalate (p.actions.map (·.summary))

end Plan

end Converge
