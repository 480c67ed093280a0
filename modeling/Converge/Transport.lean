import Converge.Journal

/-!
# Transports

A transport is how the library reaches the resources of one kind: it reads, writes, deletes and creates
them in a remote, whose state is of any type. A call may log lines and make pauses on its way, and it
fails with an error of the transport.

`Run` is a computation in a world: a remote and the journal of what was done to it. A call enters the
journal through `Run.call` alone, so a transport can add to the journal but not take anything away.
-/

namespace Converge

/-- A remote in the middle of a call, with the notes made so far. -/
structure Wire (σ : Type) where
  remote : σ
  notes : List Note

/-- A part of a call. -/
abbrev Interaction (σ ε α : Type) := ExceptT ε (StateM (Wire σ)) α

namespace Interaction

variable {σ ε α : Type}

def note (n : Note) : Interaction σ ε Unit :=
  fun w => (.ok (), { w with notes := w.notes ++ [n] })

def log (level : Level) (text : String) : Interaction σ ε Unit := note (.line level text)

def pause (d : Delay) : Interaction σ ε Unit := note (.pause d)

def ask (f : σ → Except ε α × σ) : Interaction σ ε α := fun w =>
  let (r, remote) := f w.remote
  (r, { w with remote })

end Interaction

/-- How the resources of one kind are reached. -/
structure Transport (σ ε : Type) where
  /-- The attributes of a resource, none if there is no such resource. -/
  read : String → Interaction σ ε (Option FieldMap)
  /-- Changes a resource in place; gives its new id if that moved it. -/
  write : String → FieldMap → Interaction σ ε (Option String)
  /-- Deletes a resource; that it is gone already is no error. -/
  delete : String → Interaction σ ε Unit
  /-- Creates a resource and gives its id. -/
  create : FieldMap → Interaction σ ε String
  /-- May a call that failed so succeed if it is made again? -/
  retryable : ε → Bool

/-- `build_update_payload`: what an update sends, the changed attributes over those that go along. -/
def updatePayload (changed accompanying : FieldMap) : FieldMap := accompanying.overwrite changed

/-- A remote and the journal of what was done to it. -/
structure World (σ : Type) where
  remote : σ
  journal : Journal

abbrev Run (σ ε α : Type) := ExceptT ε (StateM (World σ)) α

namespace Run

variable {σ ε ε' α : Type}

def note (n : Note) : Run σ ε Unit :=
  fun w => (.ok (), { w with journal := w.journal ++ [.note n] })

def log (level : Level) (text : String) : Run σ ε Unit := note (.line level text)

/-- Makes a call and enters it into the journal, before what it noted itself. -/
def call (c : Call) (op : Interaction σ ε α) : Run σ ε α := fun w =>
  let (r, wire) := op ⟨w.remote, []⟩
  (r, ⟨wire.remote, w.journal ++ .call c r.toBool :: wire.notes.map .note⟩)

def mapError (f : ε → ε') (x : Run σ ε α) : Run σ ε' α := fun w =>
  let (r, w) := x w
  (r.mapError f, w)

/-- The value of a computation that cannot touch the world. -/
def ofExcept (x : Except ε α) : Run σ ε α := fun w => (x, w)

end Run

end Converge
