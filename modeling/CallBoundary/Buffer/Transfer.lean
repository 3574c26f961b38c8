import CallBoundary.Buffer.Heap
import CallBoundary.Wire.Encode
import CallBoundary.Wire.Decode

/-!
# Values in buffers

Lowering puts a value into a fresh buffer, and its taker owns the buffer; lifting takes a value out
of a buffer and gives the buffer back, whether or not the bytes make sense.

A text or byte run that is the whole value is its bare bytes, since the buffer's length says how
many there are.  Every other value has its usual encoding, and nothing may follow it.

Both look at the bytes of a buffer, and are told for every `Memory`; with an allocator alone a look is
nothing but the bytes.
-/

namespace CallBoundary

namespace Value

/-- How many bytes a value takes as the whole contents of a buffer. -/
def outerLength : Value → Nat
  | text s => (encodeText s).length
  | bytes bs => bs.length
  | v => v.encodedLength

/-- The bytes of a value as the whole contents of a buffer. -/
def encodeOuter : Value → Bytes
  | text s => encodeText s
  | bytes bs => bs
  | v => v.encode

/-- Writes a value as the whole contents of a buffer. -/
def writeOuter : Value → Writer Unit
  | text s => Writer.put (encodeText s)
  | bytes bs => Writer.put bs
  | v => v.write

/-- A buffer after its bytes were written to.  A buffer that turned out too small is given back; if
that fails too, this is the error reported. -/
def filled (A : Allocator σ) (b : Buffer) :
    Except WireError Unit × Region → EStateM WireError σ Buffer
  | (.ok (), r) => return b.overwrite r.written
  | (.error e, _) => do
    A.free b
    throw e

/-- Puts a value into a buffer of a memory. -/
def lowerFrom (M : Memory σ) (v : Value) : EStateM WireError σ Buffer := do
  let b ← M.alloc v.outerLength
  ofExcept b.check
  let room ← M.look b
  filled M.toAllocator b (v.writeOuter.runOn (.fresh room))

/-- Puts a value into a buffer of an allocator. -/
def lower (A : Allocator σ) (v : Value) : EStateM WireError σ Buffer := v.lowerFrom (.plain A)

theorem lower_eq (A : Allocator σ) (v : Value) : v.lower A = (do
    let b ← A.alloc v.outerLength
    ofExcept b.check
    filled A b (v.writeOuter.runOn (.fresh b.contents))) := rfl

end Value

namespace Schema

/-- The value of a type whose encoding is the whole of these bytes.  It is put together only when
all bytes have turned out right. -/
def readOuter (S : Schema) : WireType → Bytes → Except WireError Value
  | .text, bs => (Reader.ofText bs).map .text
  | .bytes, bs => .ok (.bytes bs)
  | t, bs => ((S.readLater t).all bs).map Thunk.get

theorem map_readLater (S : Schema) (t : WireType) (bs : Bytes) :
    ((S.readLater t).all bs).map Thunk.get = (S.read t).all bs := by
  rw [Reader.map_all, ← read_eq]

/-- What is lifted from bytes whose buffer was given back with this outcome.  Of two errors the
decoding's is reported, except that the bytes of a text are decoded only after the buffer is gone. -/
def lifted (S : Schema) (t : WireType) (bs : Bytes) (freed : Except WireError Unit) :
    Except WireError Value :=
  match t, S.readOuter t bs, freed with
  | .text, _, .error e => .error e
  | _, .error e, _ => .error e
  | _, .ok _, .error e => .error e
  | _, .ok v, .ok () => .ok v

/-- Takes a value out of a buffer of a memory and gives the buffer back.  A buffer with a broken
layout is not touched. -/
def liftFrom (S : Schema) (M : Memory σ) (t : WireType) (b : Buffer) :
    EStateM WireError σ Value := do
  ofExcept b.check
  let bs ← M.look b
  let freed ← attempt (M.free b)
  ofExcept (S.lifted t bs freed)

/-- Takes a value out of a buffer of an allocator and gives the buffer back. -/
def lift (S : Schema) (A : Allocator σ) (t : WireType) (b : Buffer) :
    EStateM WireError σ Value := S.liftFrom (.plain A) t b

theorem lift_eq (S : Schema) (A : Allocator σ) (t : WireType) (b : Buffer) :
    S.lift A t b = (do
      ofExcept b.check
      let freed ← attempt (A.free b)
      ofExcept (S.lifted t b.contents freed)) := rfl

end Schema

end CallBoundary
