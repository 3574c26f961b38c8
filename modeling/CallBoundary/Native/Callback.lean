import CallBoundary.Native.Call

/-!
# Calls from the native side into the host

The host registers a table of entry points for each kind of object it offers, and passes objects by
handle.  The native side owns a handle it was given and releases it once.  What a callback left in
its status is read by `checkForeign`.
-/

namespace CallBoundary.Native

/-- The entry points of one kind of host object, once they are registered. -/
structure CallbackTable (α : Type) where
  name : String
  entries : Option α := none

namespace CallbackTable

/-- The table with these entry points. -/
def register (t : CallbackTable α) (entries : α) : CallbackTable α :=
  { t with entries := some entries }

/-- The registered entry points. -/
def get (t : CallbackTable α) : Except Fault α :=
  match t.entries with
  | some a => .ok a
  | none => .error (.internal s!"Callback vtable {t.name} not registered")

end CallbackTable

/-- Host objects that the native side holds, and the handles it has released, oldest first. -/
structure Holdings where
  held : List (Option Handle) := []
  released : List Handle := []
deriving DecidableEq, Repr

namespace Holdings

/-- Takes over a handle. -/
def hold (s : Holdings) (h : Handle) : Holdings := { s with held := s.held ++ [some h] }

/-- Releases the handle that was taken over as number `i`, and says whether it was still held. -/
def drop (s : Holdings) (i : Nat) : Bool × Holdings :=
  match s.held[i]? with
  | some (some h) => (true, ⟨s.held.set i none, s.released ++ [h]⟩)
  | _ => (false, s)

end Holdings

/-- Why a callback returned no value. -/
inductive ForeignFault where
  /-- An error that the callback declares. -/
  | domain (error : Value)
  /-- Anything else. -/
  | unexpected (message : String)
deriving DecidableEq, Repr

/-- The wording of a callback's fault. -/
def ForeignFault.message : ForeignFault → String
  | domain _ => "Callback returned a domain error"
  | unexpected m => s!"Callback failed: {m}"

/-- The message of a callback that panicked. -/
def foreignPanic (S : Schema) (payload : Buffer) : StateM Heap String := do
  if payload.isUnallocated then return "callback failed without a message"
  match ← attempt (S.lift allocator .text payload) with
  | .ok v => return v.asText
  | .error e => return s!"callback failed with an unreadable message: {e.message}"

/-- Reads the status a callback left, and takes back its buffer. -/
def checkForeign (S : Schema) (errorType : WireType) (s : Status) :
    StateM Heap (Except ForeignFault Unit) := do
  match s.kind? with
  | some .success => return .ok ()
  | some .error =>
    match ← attempt (S.lift allocator errorType s.payload) with
    | .ok e => return .error (.domain e)
    | .error e => return .error (.unexpected s!"Malformed callback error payload: {e.message}")
  | some .panic => return .error (.unexpected (← foreignPanic S s.payload))
  | none => return .error (.unexpected s!"Unknown callback status code {s.code.toInt}")

/-- A callback's fault as a fault of the native function that called it. -/
def ForeignFault.raise : ForeignFault → Body α
  | domain e => do throw (.domain (← lowerReturn e))
  | unexpected m => throw (.internal m)

end CallBoundary.Native
