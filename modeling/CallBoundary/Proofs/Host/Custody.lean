import CallBoundary.Native.Callback
import CallBoundary.Proofs.Buffer.Ownership
import CallBoundary.Proofs.Host.Report

/-!
# Who gives the buffer of a status back

The buffer that comes with a status holds a declared error or a message.  Whoever reads the status
gives the buffer back, once, and nothing else: the host (`checkStatus_tookBack`) as much as the
native side (`checkForeign_tookBack`).
-/

namespace CallBoundary

/-! ### Taking a buffer back -/

/-- From one account of a heap to the next, the data of a buffer was taken back, once, and nothing
else.  Of a buffer without data nothing was taken. -/
structure Heap.TookBack (h : Heap) (b : Buffer) (h' : Heap) : Prop where
  frees : h'.frees = h.frees + b.address?.toList.length
  released : h'.released = h.released ++ b.address?.toList
  live : h'.live = b.address?.elim h.live h.live.erase

theorem Heap.tookBack_nothing {b : Buffer} (ha : b.address? = none) (h : Heap) :
    h.TookBack b h := by
  constructor
  · rw [ha]
    rfl
  · rw [ha]
    exact (List.append_nil _).symm
  · rw [ha]
    rfl

/-- Taking back what was handed out last leaves the heap as it was. -/
theorem Heap.TookBack.live_eq {h h' : Heap} {b : Buffer} {live : List Nat}
    (took : h.TookBack b h') (hl : h.live = b.address?.toList ++ live) : h'.live = live := by
  rw [took.live, hl]
  cases b.address? with
  | none => rfl
  | some a => exact List.erase_cons_head ..

theorem Native.free_tookBack {b : Buffer} (layout : b.check = .ok ()) (data : b.address? ≠ none)
    (h : Heap) : ∃ h', Native.allocator.free b h = .ok () h' ∧ h.TookBack b h' := by
  refine ⟨_, free_eq layout h, ?_⟩
  cases ha : b.address? with
  | none => exact absurd ha data
  | some a =>
    constructor
    · rw [ha]
      rfl
    · rw [ha]
      rfl
    · rw [ha]
      rfl

/-! ### Handing a buffer out -/

/-- Whether there is a buffer for a value: its lengths and counts fit their four bytes, and it takes
no more than `maxLength` bytes, 2 ^ 31 - 1, itself. -/
def Value.Lowerable (v : Value) : Prop := v.fitsOuter = true ∧ v.outerLength ≤ maxLength

instance (v : Value) : Decidable v.Lowerable := inferInstanceAs (Decidable (_ ∧ _))

/-- What there is no buffer for is not lowered by an allocator that refuses what is too long. -/
theorem Value.lower_refused {A : Allocator σ} {v : Value} {st : σ} (hv : ¬ v.Lowerable)
    (refuses : maxLength < v.outerLength → ∃ e st', A.alloc v.outerLength st = .error e st') :
    ∃ e st', v.lower A st = .error e st' := by
  cases hl : v.lower A st with
  | error e st' => exact ⟨e, st', rfl⟩
  | ok b st' =>
    obtain ⟨b₀, asked, -, bounded, -⟩ := Value.lower_ok hl
    obtain ⟨e, st'', refused⟩ := refuses (Nat.not_le.1 fun short => hv ⟨bounded, short⟩)
    rw [asked] at refused
    cases refused

/-- On a heap with these live blocks a buffer was handed out, with data unless it is none at all. -/
structure Heap.HandedOut (live : List Nat) (b : Buffer) (h' : Heap) : Prop where
  layout : b.check = .ok ()
  live_eq : h'.live = b.address?.toList ++ live

namespace Native

section Lower

variable {v : Value} (h : Heap)

theorem lower_handedOut (hv : v.Lowerable) : ∃ b h', v.lower allocator h = .ok b h' ∧
    Heap.HandedOut h.live b h' ∧ b.address? ≠ none ∧ b.contents = v.encodeOuter := by
  obtain ⟨b, hl, hcheck, -, hcontents, haddress⟩ := lower_eq hv.1 hv.2 h
  refine ⟨b, _, hl, ⟨hcheck, ?_⟩, haddress ▸ nofun, hcontents⟩
  rw [haddress]
  rfl

/-- Where a value cannot be lowered, no block is left behind. -/
theorem lower_unlowerable (hv : ¬ v.Lowerable) :
    ∃ e h', v.lower allocator h = .error e h' ∧ h'.live = h.live := by
  by_cases short : v.outerLength ≤ maxLength
  · -- the buffer that was handed out is taken back at once
    let blk : Block := ⟨h.next, [], v.outerLength⟩
    have halloc := alloc_eq short h
    have hsound : (Buffer.ofBlock blk).check = .ok () := if_pos (Nat.le_refl _)
    obtain ⟨h', hf, took⟩ := free_tookBack hsound nofun ((h.noteRequest v.outerLength).place [] _).2
    have hlive : h'.live = h.live := took.live_eq rfl
    cases hw : v.writeOuter (.fresh (Buffer.ofBlock blk).contents) with
    | ok u r => exact absurd ⟨Value.fitsOuter_of_writeOuter hw, short⟩ hv
    | error e r =>
      refine ⟨e, h', ?_, hlive⟩
      rw [Value.lower_eq, bind_of_ok halloc, bind_of_ok (ofExcept_of_ok hsound _),
        Value.filled_of_error hw]
      exact bind_of_ok hf _
  · exact ⟨_, _, lower_tooLong (Nat.not_le.1 short) h, rfl⟩

/-- A message takes up the next block, if there is a buffer for it. -/
theorem messageBuffer_live (m : String) : (messageBuffer (some m) h).2.live =
    (if (Value.text m).Lowerable then [h.next] else []) ++ h.live := by
  by_cases hm : (Value.text m).Lowerable
  · obtain ⟨b, hl, -⟩ := lower_eq hm.1 hm.2 h
    rw [messageBuffer_of_ok hl, if_pos hm]
    rfl
  · obtain ⟨e, h', hl, hlive⟩ := lower_unlowerable h hm
    rw [messageBuffer_of_error hl, if_neg hm]
    exact hlive

/-- A message is handed out in a buffer, or there is none. -/
theorem messageBuffer_handedOut (text : Option String) :
    Heap.HandedOut h.live (messageBuffer text h).1 (messageBuffer text h).2 := by
  cases text with
  | none => exact ⟨rfl, rfl⟩
  | some m =>
    by_cases hm : (Value.text m).Lowerable
    · obtain ⟨b, h', hl, out, -⟩ := lower_handedOut h hm
      rw [messageBuffer_of_ok hl]
      exact out
    · obtain ⟨e, h', hl, hlive⟩ := lower_unlowerable h hm
      rw [messageBuffer_of_error hl]
      exact ⟨rfl, hlive⟩

end Lower

end Native

/-! ### Statuses -/

/-- What comes with a status is for its reader to give back: with a success nothing, with a declared
error a buffer with data, with a panic perhaps none. -/
inductive Status.Tidy : Status → Prop
  | success {s : Status} (said : s.kind? = some .success) (nothing : s.payload.address? = none) :
    Tidy s
  | error {b : Buffer} (layout : b.check = .ok ()) (data : b.address? ≠ none) : Tidy (.ofError b)
  | panic {b : Buffer} (layout : b.check = .ok ()) : Tidy (.ofPanic b)

/-- Lifting from a buffer that can be looked at does to the allocator what giving the buffer back
does. -/
theorem Schema.lift_state (S : Schema) (A : Allocator σ) (t : WireType) {b : Buffer}
    (layout : b.check = .ok ()) (s : σ) :
    (attempt (S.lift A t b) s).2 = (attempt (A.free b) s).2 := by
  rw [lift_eq, attempt_bind_of_ok (ofExcept_of_ok layout s), attempt_bind_of_ok (liftM_attempt _ s),
    attempt_ofExcept]

theorem Schema.lift_tookBack (S : Schema) (A : Allocator Heap) (t : WireType) {b : Buffer}
    (layout : b.check = .ok ()) (data : b.address? ≠ none) (h : Heap)
    (agrees : ∀ h', Native.allocator.free b h = .ok () h' → A.free b h = .ok () h') :
    h.TookBack b (attempt (S.lift A t b) h).2 := by
  obtain ⟨h', hf, took⟩ := Native.free_tookBack layout data h
  rw [S.lift_state A t layout, attempt_ok (agrees h' hf)]
  exact took

section Reading

variable (S : Schema) (errorType : WireType) {s : Status} (tidy : s.Tidy) (h : Heap)

include tidy

/-- **The host gives the buffer of a status back once.** -/
theorem Host.checkStatus_tookBack :
    h.TookBack s.payload (checkStatus S nativeEntries.allocator errorType s h).2 := by
  cases tidy with
  | success said nothing =>
    rw [checkStatus_of_success S _ errorType said]
    exact Heap.tookBack_nothing nothing h
  | @error b layout data =>
    have hread : (checkStatus S nativeEntries.allocator errorType (.ofError b) h).2 =
        (attempt (S.lift nativeEntries.allocator errorType b) h).2 := by
      rw [checkStatus_of_error S _ errorType rfl, stateM_bind]
      dsimp only [Status.ofError]
      cases (attempt (S.lift nativeEntries.allocator errorType b) h).1 <;> rfl
    rw [hread]
    exact S.lift_tookBack _ errorType layout data h fun _ => nativeEntries_free
  | @panic b layout =>
    have hread : (checkStatus S nativeEntries.allocator errorType (.ofPanic b) h).2 =
        ((OwnedBuffer.ofBuffer b).drop nativeEntries.allocator h).2 := by
      rw [checkStatus_of_panic S _ errorType rfl]
      rfl
    rw [hread]
    unfold OwnedBuffer.drop OwnedBuffer.ofBuffer
    cases ha : b.address? with
    | none =>
      obtain rfl := Buffer.eq_unallocated layout ha
      exact Heap.tookBack_nothing rfl h
    | some a =>
      have data : b.address? ≠ none := ha ▸ nofun
      obtain ⟨h', hf, took⟩ := Native.free_tookBack layout data h
      simp only [Buffer.not_isUnallocated data, Bool.false_eq_true, if_false, stateM_bind,
        attempt_ok (nativeEntries_free hf)]
      exact took

/-- **The native side gives the buffer of a status back once.** -/
theorem Native.checkForeign_tookBack : h.TookBack s.payload (checkForeign S errorType s h).2 := by
  cases tidy with
  | success said nothing =>
    unfold checkForeign
    rw [said]
    exact Heap.tookBack_nothing nothing h
  | @error b layout data =>
    have hread : (checkForeign S errorType (.ofError b) h).2 =
        (attempt (S.lift allocator errorType b) h).2 := by
      show ((attempt (S.lift allocator errorType b) >>= _ : StateM Heap _) h).2 = _
      rw [stateM_bind]
      cases (attempt (S.lift allocator errorType b) h).1 <;> rfl
    rw [hread]
    exact S.lift_tookBack _ errorType layout data h fun _ => id
  | @panic b layout =>
    have hread : (checkForeign S errorType (.ofPanic b) h).2 = (foreignPanic S b h).2 := rfl
    rw [hread]
    unfold foreignPanic
    cases ha : b.address? with
    | none =>
      obtain rfl := Buffer.eq_unallocated layout ha
      exact Heap.tookBack_nothing rfl h
    | some a =>
      have data : b.address? ≠ none := ha ▸ nofun
      have took := S.lift_tookBack allocator .text layout data h fun _ => id
      rw [if_neg (by rw [Buffer.not_isUnallocated data]; exact Bool.false_ne_true), stateM_bind]
      cases (attempt (S.lift allocator .text b) h).1 <;> exact took

end Reading

end CallBoundary
