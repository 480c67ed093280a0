import Converge.Reconcile.Reconciler
import Converge.Workspace.Error

/-!
# Workspaces

A workspace brings the resources of a manifest in line one after the other, in the order of the
manifest, and keeps the state store in step with what it did. It stops at the first error; what was
done before stays recorded. `Site` is a world together with the store.

* **`Workspace.planAll`** looks and changes nothing.
* **`Workspace.applyAll`** reconciles and records.
* **`Workspace.destroyAll`** deletes the recorded resources in reverse order and forgets them.
-/

namespace Converge

/-- A world and the state store of a workspace. -/
structure Site (σ : Type) where
  world : World σ
  store : StateStore

abbrev SiteRun (σ ε α : Type) := ExceptT (WorkspaceError ε) (StateM (Site σ)) α

namespace SiteRun

variable {σ ε α : Type}

/-- A computation that leaves the store alone. -/
def inWorld {ε' : Type} (wrap : ε' → WorkspaceError ε) (x : Run σ ε' α) : SiteRun σ ε α := fun s =>
  let (r, world) := x s.world
  (r.mapError wrap, { s with world })

def log (level : Level) (text : String) : SiteRun σ ε Unit := fun s =>
  (.ok (), { s with world := { s.world with
    journal := s.world.journal ++ [.note (.line level text)] } })

/-- A value that was computed without the site. -/
def ofExcept (x : Except (WorkspaceError ε) α) : SiteRun σ ε α := fun s => (x, s)

def load (address : String) : SiteRun σ ε (Option ResourceRecord) := fun s =>
  ((s.store.load address).mapError .state, s)

def save (r : ResourceRecord) : SiteRun σ ε Unit := do
  (fun s => (.ok (), { s with store := s.store.save r }) : SiteRun σ ε Unit)
  log .info ("Saved state for " ++ r.address ++ " (" ++ r.kind ++ " '" ++ r.remoteId ++ "')")

def remove (address : String) : SiteRun σ ε Bool := do
  let found ← (fun s => (.ok (s.store.contains address),
    { s with store := s.store.remove address }) : SiteRun σ ε Bool)
  if found then log .info ("Removed state for " ++ address)
  return found

end SiteRun

structure Workspace where
  registry : Registry
  retry : RetryPolicy

abbrev Transports (σ ε : Type) := String → Option (Transport σ ε)

namespace Workspace

variable {σ ε : Type}

def reconciler (w : Workspace) (kind : String) : Except (WorkspaceError ε) Reconciler :=
  match w.registry.get? kind with
  | some schema => .ok ⟨schema, w.retry⟩
  | none => .error (.unknownKind kind)

/-- `recorded`: the record of a declared resource, whose kind must not have changed. -/
def recorded (d : Declaration) : SiteRun σ ε (Option ResourceRecord) := do
  match ← SiteRun.load d.address with
  | some record =>
    if record.kind ≠ d.kind then throw (.kindChanged d.address record.kind d.kind)
    else return some record
  | none => return none

/-- `resolve`: the transport of a kind. -/
def transportFor (transports : Transports σ ε) (kind : String) :
    SiteRun σ ε (Transport σ ε) :=
  match transports kind with
  | some t => return t
  | none => throw (.noTransport kind)

variable [ToString ε]

/-- `plan_resource`: reads a declared resource and makes its plan. -/
def planResource (w : Workspace) (d : Declaration) (t : Transport σ ε) : SiteRun σ ε Plan := do
  let r ← SiteRun.ofExcept (w.reconciler d.kind)
  let wrap := WorkspaceError.reconcile (ε := ε) d.address
  let _ ← SiteRun.ofExcept ((r.schema.resolveDesired d.fields).mapError fun e => wrap (.field e))
  let record ← recorded d
  let remote ← SiteRun.inWorld wrap (r.readKnown t (record.map (·.remoteId)))
  SiteRun.ofExcept ((r.plan d.fields remote).mapError wrap)

/-- The computation, with a warning if it fails after the old resource was deleted. -/
def warnIfPartial {α : Type} (address : String) (x : Run σ (ReconcileError ε) α) :
    Run σ (ReconcileError ε) α := fun w =>
  match x w with
  | (.ok v, w) => (.ok v, w)
  | (.error e, w) =>
    if e.isPartialReplacement then
      (.error e, { w with journal := w.journal ++ [.note (.line .warn
        (address ++ " was deleted but not recreated; the next apply will create it"))] })
    else (.error e, w)

/-- `apply_resource`: reconciles a declared resource and records it. -/
def applyResource (w : Workspace) (d : Declaration) (t : Transport σ ε) : SiteRun σ ε Outcome := do
  let r ← SiteRun.ofExcept (w.reconciler d.kind)
  let record ← recorded d
  let known := record.map (·.remoteId)
  let outcome ← SiteRun.inWorld (.reconcile d.address)
    (warnIfPartial d.address (r.reconcile t known d.fields))
  match outcome.newId.or known with
  | none => return outcome
  | some id =>
    SiteRun.save ⟨d.address, d.kind, id, d.fields⟩
    return outcome

/-- `destroy_resource`: deletes a recorded resource and forgets it. -/
def destroyResource (w : Workspace) (record : ResourceRecord) (t : Transport σ ε) :
    SiteRun σ ε Unit := do
  let r ← SiteRun.ofExcept (w.reconciler record.kind)
  SiteRun.inWorld (.reconcile record.address) (r.destroy t record.remoteId)
  let _ ← SiteRun.remove record.address
  return ()

def validate (w : Workspace) (m : Manifest) : SiteRun σ ε Unit :=
  SiteRun.ofExcept ((m.validate w.registry).mapError .manifest)

def planEach (w : Workspace) (transports : Transports σ ε) :
    List Declaration → SiteRun σ ε (List (String × Plan))
  | [] => return []
  | d :: ds => do
    let t ← transportFor transports d.kind
    let plan ← w.planResource d t
    SiteRun.log .info (d.address ++ ": " ++ plan.summary)
    return (d.address, plan) :: (← w.planEach transports ds)

def applyEach (w : Workspace) (transports : Transports σ ε) :
    List Declaration → SiteRun σ ε (List (String × Outcome))
  | [] => return []
  | d :: ds => do
    let t ← transportFor transports d.kind
    let outcome ← w.applyResource d t
    SiteRun.log .info (d.address ++ ": " ++ outcome.text)
    return (d.address, outcome) :: (← w.applyEach transports ds)

/-- Destroys the recorded ones of some declared resources, in order. -/
def destroyEach (w : Workspace) (transports : Transports σ ε) :
    List Declaration → SiteRun σ ε (List String)
  | [] => return []
  | d :: ds => do
    match ← SiteRun.load d.address with
    | none =>
      SiteRun.log .info (d.address ++ ": not recorded, skipping")
      w.destroyEach transports ds
    | some record =>
      let t ← transportFor transports record.kind
      w.destroyResource record t
      return record.address :: (← w.destroyEach transports ds)

/-- `plan_all`. -/
def planAll (w : Workspace) (m : Manifest) (transports : Transports σ ε) :
    SiteRun σ ε (List (String × Plan)) := do
  w.validate m
  w.planEach transports m.resources

/-- `apply_all`. -/
def applyAll (w : Workspace) (m : Manifest) (transports : Transports σ ε) :
    SiteRun σ ε (List (String × Outcome)) := do
  w.validate m
  w.applyEach transports m.resources

/-- `destroy_all`: destroys the recorded resources of a manifest, the last one first. -/
def destroyAll (w : Workspace) (m : Manifest) (transports : Transports σ ε) :
    SiteRun σ ε (List String) := do
  w.validate m
  w.destroyEach transports m.resources.reverse

end Workspace

end Converge
