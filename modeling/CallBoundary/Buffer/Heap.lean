import CallBoundary.Buffer.Basic

/-!
# Allocators

An allocator answers requests for buffers and takes buffers back, and may refuse either.  A `Memory`
has besides a way of looking at the bytes of a buffer, by which it can be told when that happens.
`Heap` is the account of an allocator: which blocks are live, which were released, how much was asked
for.

`Plan` is the allocator that behaves as it is told: call by call it may refuse, hand out null data,
or hand out less or more than was asked.  What holds for every plan holds for every allocator.
-/

namespace CallBoundary

/-- A place to get buffers from and to give them back to. -/
structure Allocator (σ : Type) where
  alloc : Nat → EStateM WireError σ Buffer
  free : Buffer → EStateM WireError σ Unit

/-- A computation on a part of the state. -/
def onPart (part : τ → σ) (update : τ → σ → τ) (m : EStateM ε σ α) : EStateM ε τ α := fun t =>
  match m (part t) with
  | .ok a s => .ok a (update t s)
  | .error e s => .error e (update t s)

/-- An allocator that works on a part of the state. -/
def Allocator.onPart (part : τ → σ) (update : τ → σ → τ) (A : Allocator σ) : Allocator τ where
  alloc size := CallBoundary.onPart part update (A.alloc size)
  free b := CallBoundary.onPart part update (A.free b)

/-- An allocator, and how the bytes of its buffers are looked at. -/
structure Memory (σ : Type) extends Allocator σ where
  look : Buffer → StateM σ Bytes

/-- The memory of an allocator, where a look is nothing but the bytes. -/
def Memory.plain (A : Allocator σ) : Memory σ where
  toAllocator := A
  look b := pure b.contents

/-- The outcome of a computation that may fail, as an answer. -/
def attempt {ε σ α : Type} (m : EStateM ε σ α) : StateM σ (Except ε α) := fun s =>
  match m s with
  | .ok a s => (.ok a, s)
  | .error e s => (.error e, s)

instance instMonadLiftState : MonadLift (StateM σ) (EStateM ε σ) where
  monadLift m := fun s => let (a, s) := m s; .ok a s

/-- The account of an allocator. -/
structure Heap where
  /-- The next unused address. -/
  next : Nat := 1
  /-- The blocks handed out and not taken back. -/
  live : List Nat := []
  /-- The blocks taken back, oldest first. -/
  released : List Nat := []
  /-- The sizes asked for, oldest first. -/
  requests : List Nat := []
  /-- How often a buffer was offered back. -/
  frees : Nat := 0
deriving DecidableEq, Repr

namespace Heap

/-- A new live block with these bytes and so many zeros after them. -/
def place (h : Heap) (bs : Bytes) (blank : Nat) : Block × Heap :=
  (⟨h.next, bs, blank⟩, { h with next := h.next + 1, live := h.next :: h.live })

/-- The block at an address is taken back. -/
def release (h : Heap) (address : Nat) : Heap :=
  { h with live := h.live.erase address, released := h.released ++ [address] }

/-- A request is noted. -/
def noteRequest (h : Heap) (size : Nat) : Heap := { h with requests := h.requests ++ [size] }

/-- An offer is noted. -/
def noteFree (h : Heap) : Heap := { h with frees := h.frees + 1 }

/-- A buffer of zeros. -/
def zeros (n : Nat) : EStateM WireError Heap Buffer := fun h =>
  let (b, h) := h.place [] n
  .ok (.ofBlock b) h

end Heap

/-- How a request is answered. -/
inductive Supply where
  | exact
  | refuse (reason : String)
  | null (capacity : Nat)
  | short (missing : Nat)
  | long (extra : Nat)
deriving DecidableEq, Repr

/-- How an allocator behaves, call by call. -/
structure Plan where
  /-- The answer to each request. -/
  supply : Nat → Supply := fun _ => .exact
  /-- The reason for which each offer is refused, if it is. -/
  refusal : Nat → Option String := fun _ => none

/-- The allocator that follows a plan.  Left alone, it hands out as many zeros as asked for and
takes back what is live. -/
def Plan.allocator (p : Plan) : Allocator Heap where
  alloc size := fun h =>
    let h' := h.noteRequest size
    match p.supply h.requests.length with
    | .exact => Heap.zeros size h'
    | .refuse reason => .error (.allocation reason) h'
    | .null c => .ok ⟨.null c, 0⟩ h'
    | .short k => Heap.zeros (size - k) h'
    | .long k => Heap.zeros (size + k) h'
  free b := fun h =>
    let h' := h.noteFree
    match p.refusal h.frees with
    | some reason => .error (.allocation reason) h'
    | none =>
      if b.isUnallocated then .ok () h'
      else match b.check with
        | .error e => .error e h'
        | .ok () => match b.address? with
          | none => .ok () h'
          | some a =>
            if a ∈ h.live then .ok () (h'.release a)
            else .error (.allocation "double free") h'

end CallBoundary
