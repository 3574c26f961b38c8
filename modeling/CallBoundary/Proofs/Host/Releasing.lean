import CallBoundary.Host.Status
import CallBoundary.Proofs.Buffer.Ownership

/-!
# Giving the buffer of a status back

A status that reports a failure owns a buffer, and whoever reads the status has to give it back,
whatever the bytes in it are.  A message is given back by dropping it, an error by lifting it; and
lifting looks at the layout first, and leaves a buffer alone that claims more bytes than it has room
for.  So of the two readers one gives every buffer with data back, once, and the other every buffer
with data that is not an error with a broken layout (`Releases`).
-/

namespace CallBoundary.Host

variable {σ α : Type}

/-- A computation with an allocator asks it to take a buffer back, once, and for nothing else. -/
def AsksToFree (A : Allocator σ) (m' : StateM (σ × List AllocatorCall) α) (m : StateM σ α)
    (b : Buffer) (st : σ) : Prop :=
  Notes m' m st [.free b (outcome (A.free b) st)]

/-- What reading a status asks of the allocator. -/
structure Releases (S : Schema) (A : Allocator σ) (errorType : WireType) (s : Status) (st : σ) :
    Prop where
  /-- An error that can be looked at is given back, whether or not it makes sense, -/
  error : s.kind? = some .error → s.payload.check = .ok () →
    AsksToFree A (checkStatus S A.audited errorType s) (checkStatus S A errorType s) s.payload st
  /-- and one that cannot is not. -/
  broken : s.kind? = some .error → ∀ e, s.payload.check = .error e →
    Notes (checkStatus S A.audited errorType s) (checkStatus S A errorType s) st []
  /-- The message of a panic is given back, -/
  panic : s.kind? = some .panic → s.payload.address? ≠ none →
    AsksToFree A (checkStatus S A.audited errorType s) (checkStatus S A errorType s) s.payload st
  /-- and so is everything, where no error is declared. -/
  undeclared : s.kind? = some .error ∨ s.kind? = some .panic → s.payload.address? ≠ none →
    AsksToFree A (checkInternalStatus A.audited s) (checkInternalStatus A s) s.payload st
  /-- Any other status is read without the allocator. -/
  others : s.kind? = some .success ∨ s.kind? = none →
    Notes (checkStatus S A.audited errorType s) (checkStatus S A errorType s) st [] ∧
    Notes (checkInternalStatus A.audited s) (checkInternalStatus A s) st []

variable {A : Allocator σ}

/-- A buffer with data is given back when it is dropped. -/
theorem drop_asksToFree {b : Buffer} (data : b.address? ≠ none) (st : σ) :
    AsksToFree A ((OwnedBuffer.ofBuffer b).drop A.audited) ((OwnedBuffer.ofBuffer b).drop A) b st := by
  simp only [OwnedBuffer.drop, OwnedBuffer.ofBuffer, b.not_isUnallocated data]
  exact (notes_free A b st).bind_nil (notes_pure () _)

/-- An error is read as it is lifted. -/
theorem checkStatus_notes {S : Schema} {errorType : WireType} {s : Status} {st : σ}
    {calls : List AllocatorCall} (kind : s.kind? = some .error)
    (hlift : Notes (attempt (S.lift A.audited errorType s.payload))
      (attempt (S.lift A errorType s.payload)) st calls) :
    Notes (checkStatus S A.audited errorType s) (checkStatus S A errorType s) st calls := by
  rw [checkStatus_of_error S _ errorType kind, checkStatus_of_error S _ errorType kind]
  refine hlift.bind_nil ?_
  cases (attempt (S.lift A errorType s.payload) st).1 <;> exact notes_pure _ _

/-- Where no error is declared, the buffer is dropped. -/
theorem checkInternalStatus_asksToFree {s : Status}
    (kind : s.kind? = some .error ∨ s.kind? = some .panic) (data : s.payload.address? ≠ none) (st : σ) :
    AsksToFree A (checkInternalStatus A.audited s) (checkInternalStatus A s) s.payload st := by
  rcases kind with kind | kind
  · rw [checkInternalStatus_of_error _ kind, checkInternalStatus_of_error _ kind]
    exact (drop_asksToFree data st).bind_nil (notes_pure _ _)
  · rw [checkInternalStatus_of_panic _ kind, checkInternalStatus_of_panic _ kind]
    exact (drop_asksToFree data st).bind_nil (notes_pure _ _)

/-- **Whoever reads a status gives its buffer back**, but for an error whose layout is broken. -/
theorem status_releases (S : Schema) (A : Allocator σ) (errorType : WireType) (s : Status) (st : σ) :
    Releases S A errorType s st := by
  constructor
  · intro kind layout
    exact checkStatus_notes kind (S.lift_notes A errorType layout st)
  · intro kind e layout
    exact checkStatus_notes kind (S.lift_notes_broken A errorType layout st)
  · intro kind data
    rw [checkStatus_of_panic S _ errorType kind, checkStatus_of_panic S _ errorType kind]
    exact (drop_asksToFree data st).bind_nil (notes_pure _ _)
  · intro kind data
    exact checkInternalStatus_asksToFree kind data st
  · intro kind
    rcases kind with kind | kind
    · rw [checkStatus_of_success S _ errorType kind, checkStatus_of_success S _ errorType kind,
        checkInternalStatus_of_success _ kind, checkInternalStatus_of_success _ kind]
      exact ⟨notes_pure _ _, notes_pure _ _⟩
    · rw [checkStatus_of_unknown S _ errorType kind, checkStatus_of_unknown S _ errorType kind,
        checkInternalStatus_of_unknown _ kind, checkInternalStatus_of_unknown _ kind]
      exact ⟨notes_pure _ _, notes_pure _ _⟩

/-- Three bytes that are no error, offered back to an allocator that takes nothing back, whether or
not errors are declared. -/
theorem status_releases_undecodable :
    AsksToFree Plan.stingy.allocator
      (checkStatus Sample.schema Plan.stingy.allocator.audited (.named "FixtureError")
        (.ofError (.ofBlock ⟨7, [1, 2, 3], 0⟩)))
      (checkStatus Sample.schema Plan.stingy.allocator (.named "FixtureError")
        (.ofError (.ofBlock ⟨7, [1, 2, 3], 0⟩)))
      (.ofBlock ⟨7, [1, 2, 3], 0⟩) {} ∧
    AsksToFree Plan.stingy.allocator
      (checkInternalStatus Plan.stingy.allocator.audited (.ofError (.ofBlock ⟨7, [1, 2, 3], 0⟩)))
      (checkInternalStatus Plan.stingy.allocator (.ofError (.ofBlock ⟨7, [1, 2, 3], 0⟩)))
      (.ofBlock ⟨7, [1, 2, 3], 0⟩) {} := by
  have h := status_releases Sample.schema Plan.stingy.allocator (.named "FixtureError")
    (.ofError (.ofBlock ⟨7, [1, 2, 3], 0⟩)) {}
  exact ⟨h.error rfl rfl, h.undeclared (.inl rfl) nofun⟩

/-- An error in a buffer of a byte that claims five. -/
def overlong : Status := .ofError ⟨.block ⟨7, [0x61], 0⟩, 5⟩

/-- The buffer has data, and the status reports an error; but the allocator is not asked to take the
buffer back, where an error is declared.  Where none is, it is. -/
theorem overlong_not_released :
    overlong.kind? = some .error ∧ overlong.payload.address? = some 7 ∧
    (∀ answer, ¬ Notes
      (checkStatus Sample.schema ({} : Plan).allocator.audited (.named "FixtureError") overlong)
      (checkStatus Sample.schema ({} : Plan).allocator (.named "FixtureError") overlong) {}
      [.free overlong.payload answer]) ∧
    AsksToFree ({} : Plan).allocator (checkInternalStatus ({} : Plan).allocator.audited overlong)
      (checkInternalStatus ({} : Plan).allocator overlong) overlong.payload {} := by
  refine ⟨rfl, rfl, ?_, ?_⟩
  · intro answer h
    -- nothing is noted
    have hcalls := congrArg (fun r => r.2.2) (h [])
    cases hcalls
  · exact checkInternalStatus_asksToFree (s := overlong) (.inl rfl) (by decide) _

end CallBoundary.Host
