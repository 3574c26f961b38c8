import CallBoundary.Buffer.Transfer
import CallBoundary.Call.Status

/-!
# Calls into the native side

A native body works on the native heap and returns a value or fails: with a declared error, which
it has put into a buffer already, with an internal fault, or by panicking.  `run` reports what
happened through the status, and never fails itself.
-/

namespace CallBoundary.Native

/-- Why a native body returns no value. -/
inductive Fault where
  /-- A declared error, encoded in a buffer. -/
  | domain (payload : Buffer)
  /-- Anything else that was noticed. -/
  | internal (message : String)
  /-- A panic, with its text if it has one. -/
  | panic (text : Option String)
deriving DecidableEq, Repr

/-- The wording of a fault. -/
def Fault.message : Fault → String
  | domain b => s!"Domain error ({b.length} encoded bytes)"
  | internal m => m
  | panic text => text.getD ""

/-- The work of a native function. -/
abbrev Body := EStateM Fault Heap

/-- A size that no buffer has. -/
def tooLong (size : Nat) : WireError :=
  .allocation s!"requested {size} bytes, limit is {maxLength}"

/-- The allocator of the native side: as many zeros as asked for, up to the largest length that
the wire can carry. -/
def allocator : Allocator Heap where
  alloc size := fun h =>
    if size ≤ maxLength then Heap.zeros size (h.noteRequest size)
    else .error (tooLong size) (h.noteRequest size)
  free b := fun h =>
    let h := h.noteFree
    match b.check with
    | .error e => .error e h
    | .ok () => match b.address? with
      | none => .ok () h
      | some a => .ok () (h.release a)

/-- A failed encoding or buffer is an internal fault. -/
def ofWire (m : EStateM WireError Heap α) : Body α := fun h =>
  match m h with
  | .ok a h => .ok a h
  | .error e h => .error (.internal e.message) h

/-- The buffer that reports a message: none if there is no message or no room for it. -/
def messageBuffer : Option String → StateM Heap Buffer
  | none => pure .unallocated
  | some m => do
    match ← attempt ((Value.text m).lower allocator) with
    | .ok b => return b
    | .error _ => return .unallocated

/-- Runs a body, and reports its outcome in the status. -/
def run (zero : α) (body : Body α) (s : Status) : StateM Heap (α × Status) := do
  match ← attempt body with
  | .ok a => return (a, s.setSuccess)
  | .error (.domain b) => return (zero, .ofError b)
  | .error (.internal m) => return (zero, .ofPanic (← messageBuffer (some m)))
  | .error (.panic text) => return (zero, .ofPanic (← messageBuffer text))

/-- Puts a result into a buffer. -/
def lowerReturn (v : Value) : Body Buffer := ofWire (v.lower allocator)

/-- Puts a result into a buffer, or a declared error into the buffer that reports it. -/
def lowerResult : Except Value Value → Body Buffer
  | .ok v => lowerReturn v
  | .error e => do throw (.domain (← lowerReturn e))

/-- Takes an argument out of its buffer. -/
def liftArgument (S : Schema) (name : String) (t : WireType) (b : Buffer) : Body Value := fun h =>
  match S.lift allocator t b h with
  | .ok v h => .ok v h
  | .error e h => .error (.internal s!"Failed to lift argument '{name}': {e.message}") h

/-! ### The life of a buffer -/

/-- Hands out a buffer of zeros. -/
def allocBuffer (size : Nat) (s : Status) : StateM Heap (Buffer × Status) :=
  run .unallocated (ofWire (allocator.alloc size)) s

/-- Copies borrowed bytes into a buffer. -/
def bufferOfBytes (lent : Borrowed) (s : Status) : StateM Heap (Buffer × Status) :=
  run .unallocated (ofWire do
    let bs ← ofExcept lent.contents
    return .ofBlock (← modifyGet (·.place bs 0))) s

/-- Takes a buffer back. -/
def freeBuffer (b : Buffer) (s : Status) : StateM Heap (Unit × Status) :=
  run () (ofWire (allocator.free b)) s

/-- The largest number that a length can be. -/
def maxWord : Nat := 0xffffffffffffffff

/-- A buffer with room for more bytes after those that count, in place of this one.  A buffer with
room enough keeps its block; any other gets a new one. -/
def grow (b : Buffer) (additional : Nat) (h : Heap) : Buffer × Heap :=
  match b.storage with
  | .block blk =>
    if b.length + additional ≤ blk.size then (b, h)
    else
      let (new, h) := (h.release blk.address).place b.contents additional
      (⟨.block new, b.length⟩, h)
  | .null _ =>
    let (new, h) := h.place [] additional
    (⟨.block new, 0⟩, h)

/-- Makes room for more bytes after those that count. -/
def reserveBuffer (b : Buffer) (additional : Nat) (s : Status) : StateM Heap (Buffer × Status) :=
  run .unallocated (ofWire do
    let target := min (b.length + additional) maxWord
    if maxLength < target then
      throw (.allocation s!"reserve to {target} bytes exceeds limit {maxLength}")
    ofExcept b.check
    modifyGet (grow b additional)) s

end CallBoundary.Native
