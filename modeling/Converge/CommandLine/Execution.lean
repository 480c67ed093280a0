import Converge.CommandLine.Settings
import Converge.Manifest.Reader
import Converge.Vault.Kinds
import Converge.Workspace.Basic

/-!
# Executing a command

`Invocation.execute` does what an invocation says, with a Vault server as the remote and a state store,
and logs what it does. A failure carries its causes, `Failure.chain` are their messages.
-/

namespace Converge.CommandLine

open Vault (VaultError)

/-! ## Failures -/

inductive Failure where
  /-- The manifest of a path could not be loaded. -/
  | manifest (path : String) (e : ManifestError)
  | state (e : StateError)
  | workspace (e : WorkspaceError VaultError)
deriving DecidableEq

namespace Failure

/-- The messages of a manifest error, from the outside in. -/
def manifestChain (e : ManifestError) : List String :=
  match e with
  | .unreadable _ cause => [e.message, cause]
  | .parse problem => [e.message, problem.message]
  | _ => [e.message]

/-- The messages of a state error, from the outside in. -/
def stateChain (e : StateError) : List String :=
  match e with
  | .corrupt _ problem => [e.message, problem.message]

/-- The messages of a reconciliation error, from the outside in. -/
def reconcileChain (e : ReconcileError VaultError) : List String :=
  e.message :: (e.source?.map VaultError.message).toList

/-- The messages of a failure and of its causes, from the outside in. -/
def chain : Failure → List String
  | .manifest path e => ("Failed to load manifest " ++ path) :: manifestChain e
  | .state e => stateChain e
  | .workspace (.manifest e) => manifestChain e
  | .workspace (.state e) => (WorkspaceError.state (ε := VaultError) e).message :: stateChain e
  | .workspace (.reconcile address e) =>
    (WorkspaceError.reconcile address e).message :: reconcileChain e
  | .workspace e => [e.message]

/-- A failure for the user: the outermost message, and below it those of the causes. -/
def report (f : Failure) : String :=
  match f.chain with
  | [] => ""
  | [m] => "Error: " ++ m
  | m :: causes => "Error: " ++ m ++ "\n\nCaused by:\n"
      ++ String.intercalate "\n" (causes.map fun c => "    " ++ c)

end Failure

/-! ## Execution -/

abbrev Execution (α : Type) := ExceptT Failure (StateM (Site Http.Server)) α

namespace Execution

def inWorkspace {α : Type} (x : SiteRun Http.Server VaultError α) : Execution α := fun s =>
  let (r, s) := x s
  (r.mapError .workspace, s)

def log (level : Level) (text : String) : Execution Unit := inWorkspace (SiteRun.log level text)

/-- `load_manifest`, given the content of the file. -/
def manifest (path : String) (content : Except String String) : Execution Manifest := fun s =>
  match content with
  | .error cause => (.error (.manifest path (.unreadable path cause)), s)
  | .ok text => ((Manifest.parse text).mapError (.manifest path), s)

def records : Execution (List ResourceRecord) := fun s => (s.store.list.mapError .state, s)

/-- The computation; if it fails, its error is logged. -/
def loggingError {α : Type} (text : WorkspaceError VaultError → String)
    (x : SiteRun Http.Server VaultError α) : SiteRun Http.Server VaultError α :=
  tryCatch x fun e => do
    SiteRun.log .error (text e)
    throw e

end Execution

/-- A number of things, as text. -/
def count {α : Type} (xs : List α) : String := Number.intText xs.length

namespace Settings

def workspace (s : Settings) : Workspace := ⟨Vault.registry, s.retry⟩

/-- `connect`: the ways to the resources on a Vault server. -/
def transports (s : Settings) : Transports Http.Server VaultError :=
  Vault.transport? (Vault.Client.ofConfig s.config)

def warnIfTokenless (s : Settings) : Execution Unit :=
  if s.token.isNone then
    Execution.log .warn "No Vault token given; requests will be unauthenticated"
  else return ()

def executePlan (s : Settings) (m : Manifest) : Execution Unit := do
  s.warnIfTokenless
  Execution.log .info ("Planning " ++ count m.resources ++ " resource(s) against " ++ s.address)
  let plans ← Execution.inWorkspace (s.workspace.planAll m s.transports)
  for (address, plan) in plans do
    if plan.isDestructive then Execution.log .warn (address ++ " will be replaced")
  let pending := plans.filter fun p => !p.2.isNoop
  Execution.log .info ("Plan: " ++ count pending ++ " of " ++ count plans ++ " resource(s) to change")

def executeApply (s : Settings) (m : Manifest) : Execution Unit := do
  s.warnIfTokenless
  Execution.log .info ("Applying " ++ count m.resources ++ " resource(s) to " ++ s.address)
  let outcomes ← Execution.inWorkspace <|
    Execution.loggingError (fun e => "Apply failed: " ++ e.message)
      (s.workspace.applyAll m s.transports)
  Execution.log .info ("Apply complete: " ++ count outcomes ++ " resource(s)")

def executeDestroy (s : Settings) (m : Manifest) : Execution Unit := do
  s.warnIfTokenless
  let destroyed ← Execution.inWorkspace (s.workspace.destroyAll m s.transports)
  Execution.log .info ("Destroyed " ++ count destroyed ++ " resource(s)")

def executeState (s : Settings) : Execution Unit := do
  let records ← Execution.records
  if records.isEmpty then Execution.log .info ("No resources recorded in " ++ s.stateFile)
  for r in records do
    Execution.log .info (r.address ++ " (" ++ r.kind ++ ") -> " ++ r.remoteId ++ " ["
      ++ count r.fields.entries ++ " field(s)]")

end Settings

/-- `run`: does what an invocation says. `content` is what is in the file of its manifest, or why that cannot be read.
-/
def Invocation.execute (i : Invocation) (content : Except String String) : Execution Unit :=
  match i.command with
  | .plan path => do i.settings.executePlan (← Execution.manifest path content)
  | .apply path => do i.settings.executeApply (← Execution.manifest path content)
  | .destroy path => do i.settings.executeDestroy (← Execution.manifest path content)
  | .state => i.settings.executeState

end Converge.CommandLine
