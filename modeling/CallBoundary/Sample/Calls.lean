import CallBoundary.Host.Invoke
import CallBoundary.Sample.Declarations
import CallBoundary.Sample.Delayed
import CallBoundary.Sample.Logging

/-!
# Calling the sample library

The functions of the sample library as the host calls them: arguments lowered, status read, result
lifted, through the allocator that the library's buffer entry points make up.
-/

namespace CallBoundary.Sample

open Host

/-- Calls a synchronous function on lowered arguments. -/
def call? (d : Declaration) (args : List Lowered) :
    Option (StateM Heap (Except CallError Value)) :=
  (entryOf d.name args).map fun body =>
    invoke schema nativeEntries.allocator d.error
      (schema.liftWhole nativeEntries.allocator d.result)
      (Native.run d.result.category.zero body)

/-- Calls a synchronous function on values.  If one of them cannot be lowered, nothing is called.
There is no answer if there is no such function. -/
def callOn (name : String) (args : List Value) : StateM Heap (Option (Except CallError Value)) := do
  match ← attempt (lowerArguments nativeEntries.allocator args) with
  | .ok lowered => match (declaration? name).bind (call? · lowered) with
    | some call => some <$> call
    | none => return none
  | .error e => return some (.error (.internal (.wire e)))

/-- Starts an asynchronous function on lowered arguments. -/
def start? (d : Declaration) (args : List Lowered) : Option (StateM Heap (AsyncCall NativeTask)) :=
  (task? d.name args).map fun begin heap =>
    let (task, heap) := begin heap
    ({ native := { task with heap } }, heap)

/-- Awaits an asynchronous function. -/
def awaitResult (d : Declaration) (c : AsyncCall NativeTask) :
    PollOutcome Value × AsyncCall NativeTask :=
  c.await schema (d.error.getD SampleError.type) (schema.liftWhole NativeTask.allocator d.result)

/-- Polls an asynchronous function once. -/
def pollOnce (d : Declaration) (c : AsyncCall NativeTask) :
    PollOutcome Value × AsyncCall NativeTask :=
  c.poll NativeTask.entries schema NativeTask.allocator (d.error.getD SampleError.type)
    (schema.liftWhole NativeTask.allocator d.result)

/-- Calls a function on lowered arguments, and awaits it if it is declared so.  There is no answer
to a call that is never ready. -/
def answer? (d : Declaration) (args : List Lowered) :
    Option (StateM Heap (Option (Except CallError Value))) :=
  if d.awaited then
    (start? d args).map fun begin => do
      match (awaitResult d (← begin)).1 with
      | .ready r => return some r
      | _ => return none
  else (call? d args).map (some <$> ·)

/-- Logs lowered messages to the logger of a handle. -/
def callEmitLogs (h : Handle) (messages : Buffer) : StateM LogWorld (Except CallError Value) :=
  invoke schema LogWorld.allocator SampleError.type
    (schema.liftWhole LogWorld.allocator (.scalar .u32))
    (emitLogsEntry { name := loggerInterface, entries := some hostLogger } h messages)

end CallBoundary.Sample
