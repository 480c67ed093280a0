import Converge.CommandLine.Settings

/-!
# Reading a command line

The words are read from left to right in two scopes: before the name of the command, and behind it. An
option with a value is written `--name value` or `--name=value`, and one with a letter also `-l value`,
`-lvalue` or `-l=value`. Nothing may stand behind a word of two dashes.

The value of an option is looked at when the next option begins or the scope ends; the outer scope ends
after the inner one. So of two errors the first one in this order counts, while a word that is not
known is an error at once.
-/

namespace Converge.CommandLine

/-! ## Words -/

/-- The shape of a word. -/
inductive Word where
  /-- Two dashes. -/
  | separator
  /-- A long name with the value attached to it. -/
  | long (name : String) (value : Option String)
  /-- Letters behind one dash; there is at least one. -/
  | short (letters : List Char)
  /-- Anything else, a single dash included. -/
  | plain
deriving DecidableEq, Repr

def Word.ofString (text : String) : Word :=
  match text.toList with
  | ['-', '-'] => .separator
  | '-' :: '-' :: cs =>
    let name := String.ofList (cs.takeWhile fun c => c ≠ '=')
    match cs.dropWhile fun c => c ≠ '=' with
    | [] => .long name none
    | _ :: value => .long name (some (String.ofList value))
  | '-' :: c :: cs => .short (c :: cs)
  | _ => .plain

/-! ## Scopes -/

/-- What an option does. -/
inductive Switch where
  | set (s : Setting)
  | help
  | version
deriving DecidableEq, Repr

/-- Before the name of the command, or behind it. -/
inductive Scope where
  | outer
  | inner (v : Verb)
deriving DecidableEq, Repr

/-- What the name of a command stands for. -/
inductive Named where
  | help
  | verb (v : Verb)
deriving DecidableEq, Repr

namespace Scope

def long? (scope : Scope) (name : String) : Option Switch :=
  match Setting.shared.find? fun s => s.name = name with
  | some s => some (.set s)
  | none =>
    if name = "help" then some .help
    else match scope with
      | .outer => if name = "version" then some .version else none
      | .inner v =>
        if v.takesManifest ∧ name = Setting.manifest.name then some (.set .manifest) else none

def short? (scope : Scope) (c : Char) : Option Switch :=
  if c = 'h' then some .help
  else match scope with
    | .outer => if c = 'V' then some .version else none
    | .inner v => if v.takesManifest ∧ c = 'm' then some (.set .manifest) else none

/-- What a word names, if it may be the name of a command here. -/
def named? (scope : Scope) (word : String) : Option Named :=
  match scope with
  | .outer => if word = "help" then some .help else (Verb.ofName? word).map .verb
  | .inner _ => none

/-- The error that a word is which nothing waits for. -/
def stray (scope : Scope) (word : String) : UsageError :=
  match scope with
  | .outer => .unknownCommand word
  | .inner _ => .unknownArgument word

/-- The error that a word behind two dashes is. -/
def behindSeparator (scope : Scope) (word : String) : UsageError :=
  if (scope.named? word).isSome then .unknownArgument word else scope.stray word

end Scope

/-- What comes of asking for help with some words: each names a command of the one before it, and no
command has any. -/
def helpWith : List String → UsageError
  | [] => .helpWanted
  | word :: rest =>
    if (Scope.outer.named? word).isNone then .unknownCommand word
    else match rest with
      | [] => .helpWanted
      | next :: _ => .unknownCommand next

/-! ## Reading a scope -/

/-- How far a scope was read: the settings taken, and the option after them with its value, if that
came already. -/
structure Progress where
  given : Given := {}
  last : Option (Setting × Option String) := none

namespace Progress

def awaits (p : Progress) : Bool :=
  match p.last with
  | some (_, none) => true
  | _ => false

/-- The settings with that of the last option. -/
def settle (p : Progress) : Except UsageError Given :=
  match p.last with
  | none => .ok p.given
  | some (s, none) => .error (.missingValue s)
  | some (s, some value) => p.given.set s value

/-- Begins an option; a value that is attached to it is taken at once. -/
def begin (p : Progress) (name : String) (value : Option String) (switch : Switch) :
    Except UsageError Progress :=
  match switch, value with
  | .set s, none => do return ⟨← p.settle, some (s, none)⟩
  | .set s, some value => do return ⟨← (← p.settle).set s value, none⟩
  | .help, none => do let _ ← p.settle; throw .helpWanted
  | .version, none => do let _ ← p.settle; throw .versionWanted
  | _, some _ => .error (.unwantedValue name)

/-- Begins the option of the first letter; the others are its value. -/
def beginShort (p : Progress) (scope : Scope) : List Char → Except UsageError Progress
  | [] => .ok p
  | c :: cs =>
    let name := String.ofList ['-', c]
    match scope.short? c, cs with
    | none, _ => .error (.unknownArgument name)
    | some (.set s), [] => p.begin name none (.set s)
    | some (.set s), '=' :: value => p.begin name (some (String.ofList value)) (.set s)
    | some (.set s), value => p.begin name (some (String.ofList value)) (.set s)
    | some switch, _ => p.begin name none switch

/-- Reads the words of a scope, up to the name of a command or to the end. -/
def read (scope : Scope) (p : Progress) :
    List String → Except UsageError (Progress × Option (Verb × List String))
  | [] => .ok (p, none)
  | word :: rest =>
    match if p.awaits then none else scope.named? word with
    | some .help => .error (helpWith rest)
    | some (.verb v) => .ok (p, some (v, rest))
    | none =>
      match Word.ofString word with
      | .separator =>
        match rest with
        | [] => .ok (p, none)
        | next :: _ => .error (scope.behindSeparator next)
      | .long name value =>
        match scope.long? name with
        | none => .error (.unknownArgument word)
        | some switch =>
          match p.begin ("--" ++ name) value switch with
          | .error e => .error e
          | .ok p => read scope p rest
      | .short letters =>
        match p.beginShort scope letters with
        | .error e => .error e
        | .ok p => read scope p rest
      | .plain =>
        match p.last with
        | some (s, none) => read scope { p with last := some (s, some word) } rest
        | _ => .error (scope.stray word)

end Progress

/-! ## Reading a command line -/

/-- What the words of a command line say in an environment. -/
def Invocation.parse (environment : Given) (words : List String) : Except UsageError Invocation := do
  let (outer, command) ← Progress.read .outer {} words
  match command with
  | none =>
    let given ← outer.settle
    if given.isEmpty ∧ environment.isEmpty then throw .nothingGiven else throw .missingCommand
  | some (verb, words) =>
    let (inner, _) ← Progress.read (.inner verb) {} words
    let inner ← inner.settle
    let command ← Command.ofVerb verb inner.manifest
    let outer ← outer.settle
    return ⟨command, Settings.ofGiven ((inner.or outer).or environment)⟩

end Converge.CommandLine
