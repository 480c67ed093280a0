import Converge.Transport

/-!
# A remote in memory

A remote that keeps resources in a map by id. The id of a resource is the value of one of its
attributes. Failures can be put in line for each kind of call: a call takes the next one of its kind,
if there is one, and then fails with it and changes nothing.
-/

namespace Converge

inductive CallKind where
  | read
  | write
  | delete
  | create
deriving DecidableEq, Repr

/-- A failure that was put in line. -/
structure MemoryError where
  message : String
  retryable : Bool
deriving DecidableEq, Repr

instance : ToString MemoryError := ⟨MemoryError.message⟩

/-- A remote in memory. -/
structure MemoryRemote where
  /-- The attribute that a resource takes its id from. -/
  idField : String
  resources : SortedMap FieldMap
  failures : CallKind → List MemoryError

namespace MemoryRemote

def empty (idField : String) : MemoryRemote := ⟨idField, SortedMap.empty, fun _ => []⟩

def insert (r : MemoryRemote) (id : String) (fields : FieldMap) : MemoryRemote :=
  { r with resources := r.resources.insert id fields }

def vanish (r : MemoryRemote) (id : String) : MemoryRemote :=
  { r with resources := r.resources.erase id }

/-- Puts failures in line for a kind of call. -/
def fail (r : MemoryRemote) (kind : CallKind) (errors : List MemoryError) : MemoryRemote :=
  { r with failures := fun k => if k = kind then r.failures k ++ errors else r.failures k }

/-- Takes the next failure of a kind of call, or else answers the call. -/
def attempt {α : Type} (kind : CallKind) (f : MemoryRemote → α × MemoryRemote) (r : MemoryRemote) :
    Except MemoryError α × MemoryRemote :=
  match r.failures kind with
  | e :: rest => (.error e, { r with failures := fun k => if k = kind then rest else r.failures k })
  | [] => let (a, r) := f r; (.ok a, r)

def read (id : String) (r : MemoryRemote) : Option FieldMap × MemoryRemote := (r.resources.get? id, r)

/-- Where a payload moves a resource: to another value of the attribute that the id is taken from. -/
def movesTo (r : MemoryRemote) (id : String) (payload : FieldMap) : Option String :=
  (payload.string? r.idField).filter fun newId => newId ≠ id

/-- Writes a payload over a resource, which is created if there is none, and moves it. -/
def write (id : String) (payload : FieldMap) (r : MemoryRemote) : Option String × MemoryRemote :=
  let stored := ((r.resources.get? id).getD SortedMap.empty).overwrite payload
  let movedTo := r.movesTo id payload
  (movedTo, (r.vanish id).insert (movedTo.getD id) stored)

def delete (id : String) (r : MemoryRemote) : Unit × MemoryRemote := ((), r.vanish id)

/-- The id of a resource that is about to be created. -/
def idOf (r : MemoryRemote) (desired : FieldMap) : String :=
  (desired.string? r.idField).getD "generated"

def create (desired : FieldMap) (r : MemoryRemote) : String × MemoryRemote :=
  (r.idOf desired, r.insert (r.idOf desired) desired)

def transport : Transport MemoryRemote MemoryError where
  read id := Interaction.ask (attempt .read (read id))
  write id payload := Interaction.ask (attempt .write (write id payload))
  delete id := Interaction.ask (attempt .delete (delete id))
  create desired := Interaction.ask (attempt .create (create desired))
  retryable := MemoryError.retryable

end MemoryRemote

end Converge
