import CallBoundary.Host.Error

/-!
# Handles

Objects that stay on the host's side are known to the native side by handle.  A `HandleTable` issues
handles in order, from 1, and never the same one again, whatever was removed meanwhile.
-/

namespace CallBoundary.Host

/-- The objects that have a handle. -/
structure HandleTable (α : Type) where
  next : Handle := 1
  entries : List (Handle × α) := []
deriving Repr

namespace HandleTable

/-- The object of a handle. -/
def find? (t : HandleTable α) (h : Handle) : Option α := t.entries.lookup h

/-- The table without a handle. -/
def erase (t : HandleTable α) (h : Handle) : HandleTable α :=
  { t with entries := t.entries.filter (·.1 != h) }

/-- Issues a handle for an object. -/
def insert (t : HandleTable α) (a : α) : Handle × HandleTable α :=
  (t.next, { next := t.next + 1, entries := (t.next, a) :: (t.erase t.next).entries })

/-- Whether a handle is in use. -/
def contains (t : HandleTable α) (h : Handle) : Bool := (t.find? h).isSome

/-- How many handles are in use. -/
def size (t : HandleTable α) : Nat := t.entries.length

/-- The object of a handle, or the error that there is none. -/
def get (t : HandleTable α) (h : Handle) : Except InternalError α :=
  match t.find? h with
  | some a => .ok a
  | none => .error (.missingHandle h)

/-- Takes the object of a handle out of the table. -/
def remove (t : HandleTable α) (h : Handle) : Except InternalError α × HandleTable α :=
  (t.get h, t.erase h)

/-- The object of a handle.  If there is none, a rule about lifetimes was broken. -/
def getOrRaise (t : HandleTable α) (h : Handle) : Raising α := .ofInternal (t.get h)

/-- Takes the object of a handle out of the table.  If there is none, a rule about lifetimes was
broken. -/
def removeOrRaise (t : HandleTable α) (h : Handle) : Raising α × HandleTable α :=
  let (r, t) := t.remove h
  (.ofInternal r, t)

end HandleTable

/-- The host objects that callbacks are made to. -/
structure CallbackRegistry (α : Type) where
  handles : HandleTable α := {}
deriving Repr

namespace CallbackRegistry

/-- Issues a handle for an object. -/
def register (r : CallbackRegistry α) (a : α) : Handle × CallbackRegistry α :=
  let (h, t) := r.handles.insert a
  (h, ⟨t⟩)

/-- The object of a handle. -/
def get (r : CallbackRegistry α) (h : Handle) : Except InternalError α := r.handles.get h

/-- Forgets the object of a handle.  Releasing a handle that is not in use does nothing. -/
def release (r : CallbackRegistry α) (h : Handle) : CallbackRegistry α := ⟨(r.handles.remove h).2⟩

/-- How many objects are registered. -/
def size (r : CallbackRegistry α) : Nat := r.handles.size

end CallbackRegistry

end CallBoundary.Host
