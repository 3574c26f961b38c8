import CallBoundary.Native.Call

/-!
# Native futures

A native computation that is not done yet makes progress only when the host polls it.  A poll comes
with a number that names the host's continuation; the continuation is called with the answer, at
once or after the next wake-up.

`Scheduler` remembers, between a poll that found nothing and the next wake-up, the continuation that
is owed an answer; `Future` is the computation with its scheduler.  Each step tells what it did, in
order, as a list of `Event`s.
-/

namespace CallBoundary.Native

/-- A call of a continuation. -/
structure Firing where
  data : UInt64
  code : PollCode
deriving DecidableEq, Repr

/-- What is owed to the host. -/
inductive Scheduler where
  /-- Nothing. -/
  | idle
  /-- A wake-up came when nobody waited, so that the next poll is answered at once. -/
  | woken
  /-- This continuation waits for a wake-up. -/
  | waiting (data : UInt64)
  /-- Every poll is answered at once. -/
  | cancelled
deriving DecidableEq, Repr

namespace Scheduler

/-- A poll found nothing yet. -/
def store (data : UInt64) : Scheduler → Option Firing × Scheduler
  | idle => (none, waiting data)
  | woken => (some ⟨data, .maybeReady⟩, idle)
  | waiting earlier => (some ⟨earlier, .maybeReady⟩, waiting data)
  | cancelled => (some ⟨data, .ready⟩, cancelled)

/-- A wake-up comes. -/
def wake : Scheduler → Option Firing × Scheduler
  | idle | woken => (none, woken)
  | waiting data => (some ⟨data, .maybeReady⟩, idle)
  | cancelled => (none, cancelled)

/-- The host loses interest. -/
def cancel : Scheduler → Option Firing × Scheduler
  | waiting data => (some ⟨data, .ready⟩, cancelled)
  | _ => (none, cancelled)

end Scheduler

/-- How a poll of the computation ends. -/
inductive Progress (α : Type) where
  | pending
  | resolved (r : Except Fault α)
  | panicked (text : Option String)
deriving Repr

/-- The end of a poll that works out a result, or panics over it. -/
def Progress.ofResult : Except Fault α → Progress α
  | .error (.panic text) => .panicked text
  | r => .resolved r

/-- The result that the end of a poll leaves. -/
def Progress.result? : Progress α → Option (Except Fault α)
  | .pending => none
  | .resolved r => some r
  | .panicked text => some (.error (.internal (text.getD "native future panicked")))

/-- One poll of the computation: how often it wakes itself meanwhile, whether it keeps the waker
for later, and how it ends. -/
structure InnerPoll (α : Type) where
  wakes : Nat := 0
  keeps : Bool := false
  ends : Progress α := .pending
deriving Repr

/-- How far a computation is. -/
inductive FutureState (α : Type) where
  /-- What the next polls will find; after these the computation stays pending. -/
  | running (polls : List (InnerPoll α))
  /-- The result, which nobody has collected. -/
  | complete (r : Except Fault α)
  /-- The result was collected or given up. -/
  | consumed
deriving Repr

/-- A native computation. -/
structure Future (α : Type) where
  state : FutureState α
  scheduler : Scheduler := .idle
  /-- Whether the computation has kept a waker. -/
  wakerKept : Bool := false
deriving Repr

/-- What a step does. -/
inductive Event where
  /-- The computation is polled. -/
  | polled
  /-- The computation is dropped. -/
  | dropped
  /-- A continuation is called. -/
  | fired (f : Firing)
deriving DecidableEq, Repr

/-- The event of a continuation that may be called. -/
def Event.ofFiring (f : Option Firing) : List Event := f.toList.map .fired

namespace Scheduler

/-- As many wake-ups. -/
def wakes : Nat → Scheduler → List Event × Scheduler
  | 0, s => ([], s)
  | n + 1, s =>
    let (f, s) := s.wake
    let (es, s) := wakes n s
    (Event.ofFiring f ++ es, s)

end Scheduler

namespace Future

/-- A computation that nobody has polled. -/
def new (polls : List (InnerPoll α)) : Future α := { state := .running polls }

/-- Polls the computation once, if it is not over, and says whether it is over now.  Once it is
over it is dropped. -/
def pollInner (f : Future α) : Bool × List Event × Future α :=
  match f.state with
  | .complete _ | .consumed => (true, [], f)
  | .running polls =>
    let p := polls.headD {}
    let (woken, scheduler) := f.scheduler.wakes p.wakes
    let wakerKept := f.wakerKept || p.keeps
    match p.ends.result? with
    | none => (false, .polled :: woken, { state := .running polls.tail, scheduler, wakerKept })
    | some r =>
      (true, .polled :: (woken ++ [.dropped]), { state := .complete r, scheduler, wakerKept })

/-- The host polls, and names the continuation to call. -/
def poll (data : UInt64) (f : Future α) : List Event × Future α :=
  if f.scheduler = .cancelled then ([.fired ⟨data, .ready⟩], f)
  else
    let (ready, events, f) := f.pollInner
    if ready then (events ++ [.fired ⟨data, .ready⟩], f)
    else
      let (firing, scheduler) := f.scheduler.store data
      (events ++ Event.ofFiring firing, { f with scheduler })

/-- Somebody wakes the computation. -/
def wake (f : Future α) : List Event × Future α :=
  let (firing, scheduler) := f.scheduler.wake
  (Event.ofFiring firing, { f with scheduler })

/-- Gives up what a state holds: the computation is dropped, and the buffer of a declared error that
nobody has collected is given back. -/
def release : FutureState α → StateM Heap (List Event)
  | .running _ => return [.dropped]
  | .complete (.error (.domain b)) => do
    let _ ← attempt (allocator.free b)
    return []
  | _ => return []

/-- The host frees the future.  Wakers may outlive it. -/
def free (f : Future α) : StateM Heap (List Event × Future α) := do
  return (← release f.state, { f with state := .consumed })

/-- The host cancels the future: a waiting continuation is called, and the computation or its result
given up. -/
def cancel (f : Future α) : StateM Heap (List Event × Future α) := do
  let (firing, scheduler) := f.scheduler.cancel
  let (events, f) ← ({ f with scheduler } : Future α).free
  return (Event.ofFiring firing ++ events, f)

/-- The host asks for the result, which it gets once. -/
def complete (zero : α) (f : Future α) (s : Status) : StateM Heap ((α × Status) × Future α) := do
  match f.state with
  | .complete r => return (← run zero (ofExcept r) s, { f with state := .consumed })
  | .running _ =>
    return (← run zero (throw (.internal "Future completed before it was ready")) s, f)
  | .consumed =>
    return (← run zero (throw (.internal "Future result already consumed or cancelled")) s, f)

end Future

end CallBoundary.Native
