import CallBoundary.Native.Future

/-!
# Runs of a native future

What can be done to a future, one step after the other: the host polls it, cancels it, asks for its
result and frees it, and wakers wake it, also after it was freed.  A run is a list of steps; each
step tells what it answered and which events it brought about.
-/

namespace CallBoundary.Native

/-- What is done to a future. -/
inductive Step where
  | poll (data : UInt64)
  | wake
  | cancel
  | complete
  | free
deriving DecidableEq, Repr

/-- What a step answers. -/
inductive Reply (α : Type) where
  | done
  | result (a : α) (s : Status)
  /-- The computation has kept no waker to wake with. -/
  | noWaker
  /-- The host has given the future up. -/
  | alreadyFreed
deriving DecidableEq, Repr

/-- A future, and whether the host has freed it. -/
structure FutureRun (α : Type) where
  future : Future α
  freed : Bool := false
deriving Repr

namespace FutureRun

/-- A computation that nobody has polled. -/
def new (polls : List (InnerPoll α)) : FutureRun α := { future := .new polls }

/-- One step.  After the future was freed it can only be woken. -/
def step (zero : α) (r : FutureRun α) : Step → StateM Heap ((Reply α × List Event) × FutureRun α)
  | .wake =>
    if r.future.wakerKept then
      let (events, future) := r.future.wake
      return ((.done, events), { r with future })
    else return ((.noWaker, []), r)
  | s => do
    if r.freed then return ((.alreadyFreed, []), r)
    match s with
    | .poll data =>
      let (events, future) := r.future.poll data
      return ((.done, events), { r with future })
    | .cancel =>
      let (events, future) ← r.future.cancel
      return ((.done, events), { r with future })
    | .complete =>
      let ((a, s), future) ← r.future.complete zero {}
      return ((.result a s, []), { r with future })
    | .free =>
      let (events, future) ← r.future.free
      return ((.done, events), { future, freed := true })
    | .wake => return ((.done, []), r)

/-- Some steps, one after the other. -/
def steps (zero : α) (r : FutureRun α) :
    List Step → StateM Heap (List (Reply α × List Event) × FutureRun α)
  | [] => return ([], r)
  | s :: ss => do
    let (reply, r) ← r.step zero s
    let (replies, r) ← steps zero r ss
    return (reply :: replies, r)

end FutureRun

end CallBoundary.Native
