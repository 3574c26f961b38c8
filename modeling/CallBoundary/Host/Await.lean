import CallBoundary.Host.AsyncCall
import CallBoundary.Host.BufferEntries
import CallBoundary.Native.Future

/-!
# Awaiting a computation of the native side

A native task is a future with the heap that it works on.  While the future waits, its polls are
known beforehand; what it does after the last wait is worked out on the heap in the poll in which it
happens.  `AsyncCall.await` is an executor that polls a call again whenever the task wakes up.
-/

namespace CallBoundary.Host

/-- A native computation in progress. -/
structure NativeTask where
  heap : Heap := {}
  category : Category
  future : Native.Future Lowered
  /-- What is done after the last wait; with nothing to do, the task stays pending. -/
  work : Option (Native.Body Lowered) := none
  /-- What has happened, oldest first. -/
  events : List Native.Event := []

/-- The continuations called among some events. -/
def answersOf (events : List Native.Event) : List Answer :=
  events.filterMap fun
    | .fired f => some ⟨f.data, f.code.toInt8⟩
    | _ => none

namespace NativeTask

/-- A task that waits for so many wake-ups and then works. -/
def waiting (category : Category) (waits : Nat) (work : Option (Native.Body Lowered)) :
    NativeTask :=
  { category, work, future := .new (List.replicate waits { keeps := true }) }

/-- A step of the future, which may work on the heap. -/
def step (f : Native.Future Lowered → StateM Heap (List Native.Event × Native.Future Lowered)) :
    StateM NativeTask (List Answer) := fun t =>
  let ((events, future), heap) := f t.future t.heap
  (answersOf events, { t with heap, future, events := t.events ++ events })

/-- Works out the result, if the task has waited for the last time and nobody cancelled it. -/
def conclude (t : NativeTask) : NativeTask :=
  match t.future.state, t.work with
  | .running [], some work =>
    if t.future.scheduler = .cancelled then t
    else
      let (r, heap) := attempt work t.heap
      let future := { t.future with state := .running [{ ends := .ofResult r }] }
      { t with heap, future, work := none }
  | _, _ => t

/-- How many polls in a row the task can answer at once with a request for another. -/
def patience (t : NativeTask) : Nat :=
  (match t.future.state with
    | .running polls => polls.length
    | _ => 0) + if t.future.scheduler = .woken then 1 else 0

/-- The entry points of a task. -/
def entries : FutureEntries NativeTask where
  poll h := fun t => step (fun f => pure (f.poll h)) t.conclude
  cancel := step (·.cancel)
  complete s := fun t =>
    let ((call, future), heap) := t.future.complete t.category.zero s t.heap
    (call, { t with heap, future })
  free := do let _ ← step (·.free)
  patience := patience

/-- The allocator of the native side, as the host reaches it. -/
def allocator : Allocator NativeTask :=
  nativeEntries.allocator.onPart (·.heap) fun t heap => { t with heap }

end NativeTask

namespace AsyncCall

/-- The task wakes up. -/
def wake (c : AsyncCall NativeTask) : AsyncCall NativeTask :=
  let (answers, native) := NativeTask.step (fun f => pure f.wake) c.native
  answers.foldl fire { c with native }

variable (S : Schema) (errorType : WireType) (lift : Lowered → EStateM WireError NativeTask α)

/-- Polls a call until it is ready, waking the task in between, at most so many times. -/
def awaitFor : Nat → AsyncCall NativeTask → PollOutcome α × AsyncCall NativeTask
  | 0, c => (.pending, c)
  | n + 1, c =>
    match poll NativeTask.entries S NativeTask.allocator errorType lift c with
    | (.pending, c) => awaitFor n c.wake
    | r => r

/-- Polls a call until it is ready, or for as long as its task has something to wait for. -/
def await (c : AsyncCall NativeTask) : PollOutcome α × AsyncCall NativeTask :=
  awaitFor S errorType lift (c.native.patience + 2) c

end AsyncCall

end CallBoundary.Host
