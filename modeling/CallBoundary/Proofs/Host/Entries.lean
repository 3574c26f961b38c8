import CallBoundary.Host.BufferEntries
import CallBoundary.Proofs.Buffer.Transfer

/-!
# The native side's allocator behind its entry points

The host reaches the native side's allocator only through entry points that report by status.  What
the allocator hands out or takes back comes through unchanged (`nativeEntries_alloc`,
`nativeEntries_free`), and what it refuses is refused (`nativeEntries_refuses`).
-/

namespace CallBoundary.Host

open BufferEntries

/-! ### Entry points and their bodies -/

section Given

variable {α : Type} {zero : α} {body : Native.Body α} {h h' : Heap}

/-- An entry point whose body succeeds gives what the body gives. -/
theorem given_run {a : α} (hb : body h = .ok a h') :
    given (Native.run zero body {}) h = .ok a h' := by
  have hcall : (liftM (Native.run zero body {}) : EStateM InternalError Heap _) h =
      .ok (a, Status.setSuccess {}) h' := liftM_eq (Native.run_eq_of_ok hb {})
  exact bind_of_ok hcall _

/-- An entry point whose body fails gives nothing.  The host reads the message of the failure and
does not give its buffer back. -/
theorem given_run_error {m : String} (hb : body h = .error (.internal m) h') :
    ∃ e, given (Native.run zero body {}) h = .error e (Native.messageBuffer (some m) h').2 := by
  have hcall : (liftM (Native.run zero body {}) : EStateM InternalError Heap _) h = .ok _ _ :=
    liftM_eq (Native.run_eq_of_broken hb (.inr ⟨m, rfl, rfl⟩) {})
  unfold given
  rw [bind_of_ok hcall]
  exact ⟨_, bind_of_error (ofExcept_of_error rfl _) _⟩

theorem ofWire_of_ok {m : EStateM WireError Heap α} {a : α} (hm : m h = .ok a h') :
    Native.ofWire m h = .ok a h' := by
  rw [Native.ofWire, hm]

theorem ofWire_of_error {m : EStateM WireError Heap α} {e : WireError} (hm : m h = .error e h') :
    Native.ofWire m h = .error (.internal e.message) h' := by
  rw [Native.ofWire, hm]

end Given

/-! ### The allocator of the entry points -/

section Entries

variable {n : Nat} {b : Buffer} {h h' : Heap}

theorem nativeEntries_alloc (short : n ≤ maxLength) (h : Heap) :
    nativeEntries.allocator.alloc n h = Native.allocator.alloc n h := by
  have ha := Native.alloc_eq short h
  have hgiven : given (Native.allocBuffer n {}) h = .ok _ _ := given_run (ofWire_of_ok ha)
  have hnew : nativeEntries.newBuffer n h = .ok (.ofBlock ⟨h.next, [], n⟩) _ :=
    bind_of_ok hgiven _
  show refusal (nativeEntries.newBuffer n) h = _
  rw [refusal, hnew, ha]

theorem nativeEntries_free (hf : Native.allocator.free b h = .ok () h') :
    nativeEntries.allocator.free b h = .ok () h' := by
  have hgiven : given (Native.freeBuffer b {}) h = .ok () h' := given_run (ofWire_of_ok hf)
  show refusal (given (Native.freeBuffer b {})) h = _
  rw [refusal, hgiven]

/-- There is a longest buffer.  Whoever asks for a longer one is told so in a message, whose buffer
nobody gives back. -/
theorem nativeEntries_refuses (long : maxLength < n) (h : Heap) :
    ∃ e, nativeEntries.allocator.alloc n h =
      .error e (Native.messageBuffer (some (Native.tooLong n).message) (h.noteRequest n)).2 := by
  have ha := Native.alloc_tooLong long h
  obtain ⟨e, hgiven⟩ : ∃ e, given (Native.allocBuffer n {}) h = .error e _ :=
    given_run_error (ofWire_of_error ha)
  have hnew : nativeEntries.newBuffer n h = .error e _ := bind_of_error hgiven _
  refine ⟨.allocation e.message, ?_⟩
  show refusal (nativeEntries.newBuffer n) h = _
  rw [refusal, hnew]

end Entries

/-- The buffer entry points of the native side take back what has a sound layout. -/
theorem nativeEntries_accepts : nativeEntries.allocator.Accepts := by
  intro b h hb
  obtain ⟨h', hf⟩ := Native.allocator_accepts b h hb
  exact ⟨h', nativeEntries_free hf⟩

end CallBoundary.Host
