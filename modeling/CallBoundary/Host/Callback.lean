import CallBoundary.Host.OwnedBuffer

/-!
# Answering a callback

The native side calls a host object and reads the status afterwards.  `answer` runs the object's
method and reports its outcome: it never unwinds into the native side, whatever the method and the
allocator do.
-/

namespace CallBoundary.Host

/-- How a host object's method ends. -/
inductive CallbackOutcome (α : Type) where
  | returned (a : α)
  | failed (error : Value)
  /-- A panic, with its text if it has one. -/
  | panicked (text : Option String)
deriving Repr

/-- The status of a panic with a message; without one if there is no buffer to be had. -/
def panicStatus (A : Allocator σ) (message : String) : StateM σ Status := do
  match ← attempt ((Value.text message).lower A) with
  | .ok b => return .ofPanic b
  | .error _ => return .ofPanic .unallocated

/-- Reports the outcome of a method in the status. -/
def answer (A : Allocator σ) (zero : α) (outcome : CallbackOutcome α) (s : Status) :
    StateM σ (α × Status) := do
  match outcome with
  | .returned a => return (a, s.setSuccess)
  | .failed e =>
    match ← attempt (e.lower A) with
    | .ok b => return (zero, .ofError b)
    | .error w => return (zero, ← panicStatus A s!"Failed to lower callback error: {w.message}")
  | .panicked text => return (zero, ← panicStatus A (text.getD "callback panicked"))

end CallBoundary.Host
