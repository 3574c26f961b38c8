import CallBoundary.Buffer.Transfer
import CallBoundary.Host.Error

/-!
# Buffers in the host's hands

The host keeps every buffer it has been given in an `OwnedBuffer`, which gives the buffer back when
it is dropped.  Lifting a value out of it, or handing the buffer on, leaves nothing to drop.
-/

namespace CallBoundary.Host

/-- A buffer that the host has to give back, unless it holds none any more. -/
structure OwnedBuffer where
  held : Option Buffer
deriving DecidableEq, Repr

namespace OwnedBuffer

/-- Takes over a buffer. -/
def ofBuffer (b : Buffer) : OwnedBuffer := ⟨some b⟩

/-- Looks at the bytes as told, unless the layout is broken: then there are none. -/
def look [Monad m] (look : Buffer → m Bytes) (o : OwnedBuffer) : m Bytes :=
  match o.held with
  | none => return []
  | some b => match b.check with
    | .ok () => look b
    | .error _ => return []

/-- The bytes, none if the layout is broken. -/
def contents (o : OwnedBuffer) : Bytes := Id.run (o.look fun b => pure b.contents)

theorem look_of_sound [Monad m] (look : Buffer → m Bytes) {b : Buffer} (layout : b.check = .ok ()) :
    (ofBuffer b).look look = look b := by
  simp only [OwnedBuffer.look, ofBuffer, layout]

theorem look_of_broken [Monad m] (look : Buffer → m Bytes) {b : Buffer} {e : WireError}
    (layout : b.check = .error e) : (ofBuffer b).look look = pure [] := by
  simp only [OwnedBuffer.look, ofBuffer, layout]

theorem contents_of_sound {b : Buffer} (layout : b.check = .ok ()) :
    (ofBuffer b).contents = b.contents := by
  rw [contents, look_of_sound _ layout, Id.run_pure]

theorem contents_of_broken {b : Buffer} {e : WireError} (layout : b.check = .error e) :
    (ofBuffer b).contents = [] := by
  rw [contents, look_of_broken _ layout, Id.run_pure]

/-- A look that is nothing but the bytes finds the contents. -/
theorem look_pure [Monad m] (o : OwnedBuffer) :
    o.look (fun b => (pure b.contents : m Bytes)) = pure o.contents := by
  unfold contents OwnedBuffer.look
  cases o.held with
  | none => rfl
  | some b =>
    cases hb : b.check with
    | ok u => simp only [hb, Id.run_pure]
    | error e => simp only [hb, Id.run_pure]

/-- The length that the buffer claims. -/
def length (o : OwnedBuffer) : Nat :=
  match o.held with
  | none => 0
  | some b => b.length

/-- Whether the buffer claims no bytes. -/
def isEmpty (o : OwnedBuffer) : Bool := o.length == 0

/-- The room that the buffer claims. -/
def capacity (o : OwnedBuffer) : Nat :=
  match o.held with
  | none => 0
  | some b => b.capacity

/-- Hands the buffer on. -/
def intoBuffer (o : OwnedBuffer) : Buffer := o.held.getD .unallocated

/-- Takes a value out of a buffer of a memory, and gives the buffer back. -/
def liftFrom (S : Schema) (M : Memory σ) (t : WireType) (o : OwnedBuffer) :
    EStateM WireError σ Value := S.liftFrom M t o.intoBuffer

/-- Takes a value out, and gives the buffer back. -/
def lift (S : Schema) (A : Allocator σ) (t : WireType) (o : OwnedBuffer) :
    EStateM WireError σ Value := o.liftFrom S (.plain A) t

/-- Gives the buffer back, if there is anything to give back.  A refusal is not reported. -/
def drop (A : Allocator σ) (o : OwnedBuffer) : StateM σ Unit := do
  match o.held with
  | none => return
  | some b =>
    if b.isUnallocated then return
    let _ ← attempt (A.free b)

end OwnedBuffer

end CallBoundary.Host
