import Converge.Duration.Reader
import Converge.Reconcile.Retry
import Converge.Vault.Client

/-!
# Commands and settings

A command line has one command and settings that hold for every command. A setting may be given behind
the name of the command, before it and in the environment, and the first of these counts; if there is
none, it has its default.
-/

namespace Converge.CommandLine

/-! ## Names -/

/-- What is set by an option that takes a value. -/
inductive Setting where
  | address
  | token
  | «namespace»
  | stateFile
  | maxAttempts
  | backoff
  | manifest
deriving DecidableEq, Repr

/-- The long name of an option, without its dashes. -/
def Setting.name : Setting → String
  | .address => "vault-addr"
  | .token => "token"
  | .namespace => "namespace"
  | .stateFile => "state-db"
  | .maxAttempts => "max-attempts"
  | .backoff => "backoff-ms"
  | .manifest => "manifest"

/-- The variable of the environment that gives the setting too. -/
def Setting.environmentName? : Setting → Option String
  | .address => some "VAULT_ADDR"
  | .token => some "VAULT_TOKEN"
  | .namespace => some "VAULT_NAMESPACE"
  | .stateFile => some "MERKA_STATE_DB"
  | _ => none

/-- The settings that hold for every command. -/
def Setting.shared : List Setting :=
  [.address, .token, .namespace, .stateFile, .maxAttempts, .backoff]

/-- What is to be done, one of the `Commands`. -/
inductive Verb where
  | plan
  | apply
  | destroy
  | state
deriving DecidableEq, Repr

def Verb.name : Verb → String
  | .plan => "plan"
  | .apply => "apply"
  | .destroy => "destroy"
  | .state => "state"

def Verb.all : List Verb := [.plan, .apply, .destroy, .state]

def Verb.ofName? (name : String) : Option Verb := Verb.all.find? fun v => v.name = name

def Verb.takesManifest : Verb → Bool
  | .state => false
  | _ => true

/-! ## Errors -/

/-- Why a command line does not say what to do. -/
inductive UsageError where
  /-- It asks for help. -/
  | helpWanted
  /-- It asks for the version. -/
  | versionWanted
  /-- It says nothing at all. -/
  | nothingGiven
  | missingCommand
  | unknownCommand (word : String)
  | unknownArgument (word : String)
  | missingManifest
  | missingValue (setting : Setting)
  | emptyPath (setting : Setting)
  | badNumber (setting : Setting) (text : String)
  | givenTwice (setting : Setting)
  /-- A value is attached to an option that takes none. -/
  | unwantedValue (name : String)
deriving DecidableEq, Repr

def UsageError.message : UsageError → String
  | .helpWanted | .nothingGiven =>
    "Usage: converge [--vault-addr URL] [--token TOKEN] [--namespace NAME] [--state-db FILE]\n"
      ++ "    [--max-attempts N] [--backoff-ms N] (plan | apply | destroy) --manifest FILE\n"
      ++ "  converge [OPTION]... state"
  | .versionWanted => "converge 0.1.0"
  | .missingCommand => "no command is given"
  | .unknownCommand word => "unknown command " ++ Text.quote word
  | .unknownArgument word => "unexpected argument " ++ Text.quote word
  | .missingManifest => "option --manifest is required"
  | .missingValue setting => "option --" ++ setting.name ++ " needs a value"
  | .emptyPath setting => "option --" ++ setting.name ++ " needs a path"
  | .badNumber setting text =>
    "option --" ++ setting.name ++ " needs a number, not " ++ Text.quote text
  | .givenTwice setting => "option --" ++ setting.name ++ " is given twice"
  | .unwantedValue name => "option " ++ name ++ " takes no value"

/-! ## What is given in one place -/

/-- The settings that are given in one place. -/
structure Given where
  address : Option String := none
  token : Option String := none
  «namespace» : Option String := none
  stateFile : Option String := none
  maxAttempts : Option UInt32 := none
  backoffMillis : Option UInt64 := none
  manifest : Option String := none
deriving DecidableEq, Repr

namespace Given

def has (g : Given) : Setting → Bool
  | .address => g.address.isSome
  | .token => g.token.isSome
  | .namespace => g.namespace.isSome
  | .stateFile => g.stateFile.isSome
  | .maxAttempts => g.maxAttempts.isSome
  | .backoff => g.backoffMillis.isSome
  | .manifest => g.manifest.isSome

def isEmpty (g : Given) : Bool := decide (g = {})

/-- The number of attempts that a text says: it may have a sign, but must fit 32 bits, unsigned. -/
def attempts? (text : String) : Option UInt32 := do
  let i ← Duration.wholeNumber? text.toList
  if 0 ≤ i ∧ i < 4294967296 then some (UInt32.ofNat i.toNat) else none

/-- The number of milliseconds that a text says: it may have a plus sign, but must fit 64 bits,
unsigned. -/
def millis? (text : String) : Option UInt64 := do
  let n ← match text.toList with
    | '+' :: ds => Duration.digits? ds
    | ds => Duration.digits? ds
  if n < 18446744073709551616 then some (UInt64.ofNat n) else none

/-- Takes a value of a setting that is not given yet. -/
def set (g : Given) (s : Setting) (text : String) : Except UsageError Given :=
  if g.has s then .error (.givenTwice s)
  else match s with
    | .address => .ok { g with address := some text }
    | .token => .ok { g with token := some text }
    | .namespace => .ok { g with «namespace» := some text }
    | .stateFile => .ok { g with stateFile := some text }
    | .maxAttempts =>
      match attempts? text with
      | some n => .ok { g with maxAttempts := some n }
      | none => .error (.badNumber s text)
    | .backoff =>
      match millis? text with
      | some n => .ok { g with backoffMillis := some n }
      | none => .error (.badNumber s text)
    | .manifest =>
      if text.isEmpty then .error (.emptyPath s) else .ok { g with manifest := some text }

/-- What is given in the first place, and what is given only in the second. -/
def or (a b : Given) : Given where
  address := a.address.or b.address
  token := a.token.or b.token
  «namespace» := a.namespace.or b.namespace
  stateFile := a.stateFile.or b.stateFile
  maxAttempts := a.maxAttempts.or b.maxAttempts
  backoffMillis := a.backoffMillis.or b.backoffMillis
  manifest := a.manifest.or b.manifest

def ofEnvironment (lookup : String → Option String) : Given :=
  let value (s : Setting) : Option String := s.environmentName?.bind lookup
  { address := value .address, token := value .token, «namespace» := value .namespace,
    stateFile := value .stateFile }

end Given

/-! ## Invocations -/

structure Settings where
  address : String
  token : Option String
  «namespace» : Option String
  stateFile : String
  maxAttempts : UInt32
  backoffMillis : UInt64
deriving DecidableEq, Repr

namespace Settings

/-- The settings given, and the defaults of the others. -/
def ofGiven (g : Given) : Settings where
  address := g.address.getD "http://127.0.0.1:8200"
  token := g.token
  «namespace» := g.namespace
  stateFile := g.stateFile.getD "merka-state.db"
  maxAttempts := g.maxAttempts.getD 5
  backoffMillis := g.backoffMillis.getD 500

/-- `vault_config`: where the server is. -/
def config (s : Settings) : Vault.Config := ⟨s.address, s.token, s.namespace⟩

/-- `retry_policy`: how failed calls are made again. -/
def retry (s : Settings) : RetryPolicy :=
  RetryPolicy.ofAttempts s.maxAttempts (Delay.ofMillis s.backoffMillis.toNat)

end Settings

/-- A command with what it needs. -/
inductive Command where
  | plan (manifest : String)
  | apply (manifest : String)
  | destroy (manifest : String)
  | state
deriving DecidableEq, Repr

namespace Command

def verb : Command → Verb
  | .plan _ => .plan
  | .apply _ => .apply
  | .destroy _ => .destroy
  | .state => .state

def manifest? : Command → Option String
  | .plan path | .apply path | .destroy path => some path
  | .state => none

def ofVerb (v : Verb) (manifest : Option String) : Except UsageError Command :=
  match v, manifest with
  | .state, _ => .ok .state
  | _, none => .error .missingManifest
  | .plan, some path => .ok (.plan path)
  | .apply, some path => .ok (.apply path)
  | .destroy, some path => .ok (.destroy path)

end Command

structure Invocation where
  command : Command
  settings : Settings
deriving DecidableEq, Repr

end Converge.CommandLine
