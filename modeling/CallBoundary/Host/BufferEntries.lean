import CallBoundary.Host.Status
import CallBoundary.Native.Call

/-!
# Buffers from a native library

The host gets its buffers from the library's four buffer entry points, which report through a status
like every other call.  `BufferEntries.allocator` is the allocator they make up; `nativeEntries` are
the entry points of the native side, and `Rehearsal` puts prepared answers in front of others and
keeps a record of the calls.
-/

namespace CallBoundary.Host

/-- The buffer entry points of a library. -/
structure BufferEntries (σ : Type) where
  alloc : Nat → Status → StateM σ (Buffer × Status)
  fromBytes : Borrowed → Status → StateM σ (Buffer × Status)
  free : Buffer → Status → StateM σ (Unit × Status)
  reserve : Buffer → Nat → Status → StateM σ (Buffer × Status)

/-- What the status of a buffer entry point says.  Its message is read, not given back. -/
def entryStatus (s : Status) : Except InternalError Unit :=
  match s.kind? with
  | some .success => .ok ()
  | some _ => .error <| .bufferEntry <|
    match s.payload.check with
    | .ok () => decodeLossy s.payload.contents
    | .error e => e.message
  | none => .error (.unknownStatus s.code)

namespace BufferEntries

/-- What a buffer entry point gives, if its status says that it worked. -/
def given (call : StateM σ (α × Status)) : EStateM InternalError σ α := do
  let (a, s) ← call
  ofExcept (entryStatus s)
  return a

/-- A buffer of zeros. -/
def newBuffer (E : BufferEntries σ) (size : Nat) : EStateM InternalError σ Buffer := do
  let b ← given (E.alloc size {})
  match b.storage with
  | .null (c + 1) => throw (.wire (.missingData (c + 1)))
  | _ => return b

/-- A buffer with a copy of these bytes. -/
def copyOf (E : BufferEntries σ) (bs : Bytes) : EStateM InternalError σ Buffer := do
  match Borrowed.ofBytes bs with
  | .ok lent => given (E.fromBytes lent {})
  | .error e => throw (.wire e)

/-- Gives a buffer back. -/
def giveBack (E : BufferEntries σ) (b : Buffer) : EStateM InternalError σ Unit :=
  given (E.free b {})

/-- The buffer with room for more bytes. -/
def grow (E : BufferEntries σ) (b : Buffer) (additional : Nat) : EStateM InternalError σ Buffer :=
  given (E.reserve b additional {})

/-- An internal error of an entry point as an error of the allocator. -/
def refusal (m : EStateM InternalError σ α) : EStateM WireError σ α := fun s =>
  match m s with
  | .ok a s => .ok a s
  | .error e s => .error (.allocation e.message) s

/-- The allocator that the entry points make up. -/
def allocator (E : BufferEntries σ) : Allocator σ where
  alloc size := refusal (E.newBuffer size)
  free b := refusal (E.giveBack b)

end BufferEntries

/-- The buffer that is owned gets room for more bytes.  If that fails, nothing is owned any more. -/
def OwnedBuffer.grow (E : BufferEntries σ) (o : OwnedBuffer) (additional : Nat) :
    StateM σ (Except InternalError Unit × OwnedBuffer) := do
  match ← attempt (E.grow o.intoBuffer additional) with
  | .ok b => return (.ok (), .ofBuffer b)
  | .error e => return (.error e, ⟨none⟩)

/-- The entry points of the native side. -/
def nativeEntries : BufferEntries Heap where
  alloc := Native.allocBuffer
  fromBytes := Native.bufferOfBytes
  free := Native.freeBuffer
  reserve := Native.reserveBuffer

/-! ### Prepared answers -/

/-- A call of a buffer entry point. -/
inductive EntryCall where
  | alloc (size : Nat)
  | fromBytes (length : Int)
  | free (length : Nat)
  | reserve (length additional : Nat)
deriving DecidableEq, Repr

/-- An answer in place of an entry point's own. -/
structure PreparedAnswer where
  status : Status
  given : Buffer
deriving Repr

/-- Prepared answers for the next calls of each entry point, none where the entry point itself is
to answer, and the calls made, oldest first. -/
structure Rehearsal (σ : Type) where
  inner : σ
  alloc : List (Option PreparedAnswer) := []
  fromBytes : List (Option PreparedAnswer) := []
  free : List (Option PreparedAnswer) := []
  reserve : List (Option PreparedAnswer) := []
  calls : List EntryCall := []

namespace Rehearsal

/-- The prepared answer of a call, or else the entry point's own. -/
def respond (prepared : Option (Option PreparedAnswer)) (ofAnswer : Buffer → α)
    (real : StateM σ (α × Status)) : StateM (Rehearsal σ) (α × Status) := fun r =>
  match prepared with
  | some (some p) => ((ofAnswer p.given, p.status), r)
  | _ =>
    let (a, s) := real r.inner
    (a, { r with inner := s })

/-- A call is noted. -/
def note (r : Rehearsal σ) (call : EntryCall) : Rehearsal σ := { r with calls := r.calls ++ [call] }

/-- The entry points with prepared answers in front. -/
def entries (E : BufferEntries σ) : BufferEntries (Rehearsal σ) where
  alloc size s := fun r =>
    respond r.alloc.head? id (E.alloc size s) { r.note (.alloc size) with alloc := r.alloc.tail }
  fromBytes lent s := fun r =>
    respond r.fromBytes.head? id (E.fromBytes lent s)
      { r.note (.fromBytes lent.length) with fromBytes := r.fromBytes.tail }
  free b s := fun r =>
    respond r.free.head? (fun _ => ()) (E.free b s)
      { r.note (.free b.length) with free := r.free.tail }
  reserve b additional s := fun r =>
    respond r.reserve.head? id (E.reserve b additional s)
      { r.note (.reserve b.length additional) with reserve := r.reserve.tail }

end Rehearsal

end CallBoundary.Host
