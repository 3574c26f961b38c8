import CallBoundary.Host.Await
import CallBoundary.Sample.Functions

/-!
# The asynchronous functions of the sample library

Each takes its arguments out of their buffers at once and gives a task.  A task that is to answer
later waits for one wake-up; an argument that makes no sense is reported without waiting.
-/

namespace CallBoundary.Sample

open Native Host

/-- A task that reports a fault at its first poll, or else waits before it works. -/
def afterLifting (category : Category) (lifted : Except Fault α) (work : α → Body Lowered) :
    NativeTask :=
  match lifted with
  | .error f => .waiting category 0 (some (throw f))
  | .ok a => .waiting category 1 (some (work a))

/-- Greets, later. -/
def delayedGreet (name : Buffer) : StateM Heap NativeTask := do
  return afterLifting .buffer (← attempt (liftText "name" name)) fun name => do
    return .buffer (← lowerReturn (.text (greeting name)))

/-- Adds, later. -/
def delayedAdd (t : ScalarType) (a b : BitVec t.bits) : NativeTask :=
  .waiting (.scalar t) 1 (some (addEntry t a b))

/-- Divides, later. -/
def checkedDivideLater (a b : BitVec 64) : NativeTask :=
  .waiting (.scalar .f64) 1 (some (lowerQuotient a b))

/-- Never answers. -/
def waitForever : NativeTask := .waiting .void 0 none

/-- Panics, later. -/
def panicLater (message : Buffer) : StateM Heap NativeTask := do
  return afterLifting .void (← attempt (liftText "message" message)) fun m =>
    throw (.panic (some m))

/-- The asynchronous functions by name, on lowered arguments. -/
def task? : String → List Lowered → Option (StateM Heap NativeTask)
  | "wait_forever", [] => some (pure waitForever)
  | "delayed_greet", [.buffer name, .scalar ⟨.u64, _⟩] => delayedGreet name
  | "delayed_add", [.scalar ⟨.u32, a⟩, .scalar ⟨.u32, b⟩, .scalar ⟨.u64, _⟩] =>
    some (pure (delayedAdd .u32 a b))
  | "checked_divide_later", [.scalar ⟨.f64, a⟩, .scalar ⟨.f64, b⟩] =>
    some (pure (checkedDivideLater a b))
  | "panic_later", [.buffer message] => panicLater message
  | _, _ => none

end CallBoundary.Sample
