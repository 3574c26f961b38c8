import CallBoundary.Host.BufferEntries
import CallBoundary.Host.HandleTable

/-!
# Awaiting a native future

An asynchronous call gives the host a native future.  When its executor polls the call, the host
parks a continuation, whose handle goes with the native poll; the native side answers by calling
the continuation, at once or later.  `maybeReady` means to poll again, `ready` that the result can
be collected.  The native future is freed once: after the result was collected, or after it was
cancelled because the call was dropped or an answer made no sense.

A call that is dropped before it was first polled has not touched the native future.
-/

namespace CallBoundary.Host

/-- A call of a continuation by the native side. -/
structure Answer where
  continuation : Handle
  code : Int8
deriving DecidableEq, Repr

/-- The entry points of a native future, over all that they act on. -/
structure FutureEntries (σ : Type) where
  /-- Polls, and gives the continuations called meanwhile, in order. -/
  poll : Handle → StateM σ (List Answer)
  /-- Cancels, and gives the continuations called meanwhile, in order. -/
  cancel : StateM σ (List Answer)
  complete : Status → StateM σ (Lowered × Status)
  free : StateM σ Unit
  /-- How many polls in a row can be answered at once with a request for another. -/
  patience : σ → Nat

/-- A call of an entry point of the native future. -/
inductive FutureCall where
  | poll (continuation : Handle)
  | cancel
  | complete
  | free
deriving DecidableEq, Repr

/-- The native side of a call, with the calls of its entry points, oldest first. -/
structure Recorded (σ : Type) where
  native : σ
  calls : List FutureCall := []

namespace FutureEntries

/-- An entry point that puts each of its calls on record. -/
def noted (call : FutureCall) (m : StateM σ α) : StateM (Recorded σ) α := fun r =>
  let (a, native) := m r.native
  (a, { native, calls := r.calls ++ [call] })

theorem noted_eq {call : FutureCall} {m : StateM σ α} {r : Recorded σ} {a : α} {s : σ}
    (h : m r.native = (a, s)) : noted call m r = (a, ⟨s, r.calls ++ [call]⟩) := by
  rw [noted, h]

/-- The entry points of a native future, with a record of their calls. -/
def recorded (F : FutureEntries σ) : FutureEntries (Recorded σ) where
  poll h := noted (.poll h) (F.poll h)
  cancel := noted .cancel F.cancel
  complete s := noted .complete (F.complete s)
  free := noted .free F.free
  patience r := F.patience r.native

end FutureEntries

/-- How far an asynchronous call is. -/
inductive Phase where
  /-- Nobody has polled it. -/
  | unstarted
  /-- It waits for an answer to its last native poll. -/
  | waiting (continuation : Handle)
  /-- Its last native poll was answered. -/
  | answered (code : Int8)
  /-- It is finished or was dropped. -/
  | over
deriving DecidableEq, Repr

/-- An asynchronous call with the continuations of the host. -/
structure AsyncCall (σ : Type) extends Recorded σ where
  continuations : HandleTable Unit := {}
  phase : Phase := .unstarted
  /-- How often the executor was told to poll again. -/
  wakes : Nat := 0

/-- What an executor sees when it polls a call. -/
inductive PollOutcome (α : Type) where
  | pending
  | ready (r : Except CallError α)
  /-- The call is finished or was dropped. -/
  | gone

namespace AsyncCall

/-- The native side calls a continuation.  A continuation that is not parked is ignored; one that
nobody waits for any more is only taken out of the table. -/
def receive (c : AsyncCall σ) (a : Answer) : AsyncCall σ :=
  match c.continuations.remove a.continuation with
  | (.error _, _) => c
  | (.ok (), continuations) =>
    let phase := if c.phase = .waiting a.continuation then .answered a.code else c.phase
    { c with continuations, phase }

/-- The native side calls a continuation while the executor does something else, and wakes it if the
call waits for this answer. -/
def fire (c : AsyncCall σ) (a : Answer) : AsyncCall σ :=
  let c' := c.receive a
  if c'.phase = c.phase then c' else { c' with wakes := c.wakes + 1 }

variable (F : FutureEntries σ)

/-- One native poll, with a fresh continuation. -/
def issue (c : AsyncCall σ) : AsyncCall σ :=
  let (h, continuations) := c.continuations.insert ()
  let (answers, toRecorded) := F.recorded.poll h c.toRecorded
  answers.foldl receive { c with toRecorded, continuations, phase := .waiting h }

/-- The native future is given back. -/
def free (c : AsyncCall σ) : AsyncCall σ :=
  let ((), toRecorded) := F.recorded.free c.toRecorded
  { c with toRecorded }

/-- The native future is cancelled and given back. -/
def abandon (c : AsyncCall σ) : AsyncCall σ :=
  let (answers, toRecorded) := F.recorded.cancel c.toRecorded
  free F (answers.foldl receive { c with toRecorded, phase := .over })

/-- The result is collected and the native future given back. -/
def finish (S : Schema) (A : Allocator σ) (errorType : WireType)
    (lift : Lowered → EStateM WireError σ α) (c : AsyncCall σ) :
    Except CallError α × AsyncCall σ :=
  let (call, completed) := F.recorded.complete {} c.toRecorded
  let (returned, native) := returnValue S A errorType call completed.native
  let (result, native) := match returned with
    | .error e => (.error e, native)
    | .ok v =>
      let (r, native) := attempt (lift v) native
      (r.mapError fun e => .internal (.wire e), native)
  (result, free F { c with toRecorded := { completed with native }, phase := .over })

/-- Goes on until there is nothing to do, for at most so many steps. -/
def advance (S : Schema) (A : Allocator σ) (errorType : WireType)
    (lift : Lowered → EStateM WireError σ α) :
    Nat → AsyncCall σ → PollOutcome α × AsyncCall σ
  | 0, c => (.pending, c)
  | n + 1, c =>
    match c.phase with
    | .unstarted => advance S A errorType lift n (issue F c)
    | .waiting _ => (.pending, c)
    | .answered code =>
      match PollCode.ofInt8? code with
      | some .ready =>
        let (r, c) := finish F S A errorType lift c
        (.ready r, c)
      | some .maybeReady => advance S A errorType lift n (issue F c)
      | none => (.ready (.error (.internal (.unknownPoll code))), abandon F c)
    | .over => (.gone, c)

/-- The executor polls the call. -/
def poll (S : Schema) (A : Allocator σ) (errorType : WireType)
    (lift : Lowered → EStateM WireError σ α) (c : AsyncCall σ) : PollOutcome α × AsyncCall σ :=
  advance F S A errorType lift (F.patience c.native + 2) c

/-- The call is dropped.  Says whether there was still a call to drop. -/
def drop (c : AsyncCall σ) : Bool × AsyncCall σ :=
  match c.phase with
  | .unstarted => (true, { c with phase := .over })
  | .waiting _ | .answered _ => (true, abandon F c)
  | .over => (false, c)

end AsyncCall

/-! ### A native side that follows a script -/

/-- A native future that answers as it is told. -/
structure ScriptedFuture where
  heap : Heap := {}
  /-- For each poll the codes to answer with at once, or that the continuation is kept. -/
  script : List (Option (List Int8))
  /-- The code that a kept continuation is called with on cancellation. -/
  onCancel : Option Int8 := none
  /-- What is collected in the end. -/
  result : Lowered × Status
  kept : Option Handle := none
  /-- The continuation of the last poll. -/
  last : Option Handle := none

namespace ScriptedFuture

/-- The entry points of a scripted future. -/
def entries : FutureEntries ScriptedFuture where
  poll h := fun s =>
    match s.script with
    | [] => ([], { s with kept := some h, last := some h })
    | none :: script => ([], { s with script, kept := some h, last := some h })
    | some codes :: script => (codes.map (⟨h, ·⟩), { s with script, last := some h })
  cancel := fun s =>
    match s.onCancel, s.kept with
    | some code, some h => ([⟨h, code⟩], { s with kept := none })
    | _, _ => ([], s)
  complete _ := fun s => (s.result, s)
  free := pure ()
  patience s := s.script.length

/-- The kept continuation is given away. -/
def giveKept (s : ScriptedFuture) : ScriptedFuture := { s with kept := none }

/-- The allocator of the native side, as the host reaches it. -/
def allocator : Allocator ScriptedFuture :=
  nativeEntries.allocator.onPart (·.heap) fun s heap => { s with heap }

end ScriptedFuture

/-- Which continuation a scripted future calls on its own account. -/
inductive ScriptedAnswer where
  /-- The one it has kept, which it then gives away. -/
  | kept
  /-- The one of the last poll, whether or not it was called before. -/
  | last
  /-- One that was never issued. -/
  | unknown
deriving DecidableEq, Repr

/-- The largest handle, which no table ever reaches. -/
def farHandle : Handle := 0xffffffffffffffff

/-- A scripted future calls a continuation, if it has one.  Before the first poll it has none. -/
def AsyncCall.fireScripted (which : ScriptedAnswer) (code : Int8) (c : AsyncCall ScriptedFuture) :
    Bool × AsyncCall ScriptedFuture :=
  let h := match which with
    | .kept => c.native.kept
    | .last => c.native.last
    | .unknown => c.native.last.map fun _ => farHandle
  match h with
  | none => (false, c)
  | some h =>
    let native := if which = .kept then c.native.giveKept else c.native
    (true, { c with native }.fire ⟨h, code⟩)

end CallBoundary.Host
