import CallBoundary.Native.Call
import CallBoundary.Proofs.Outcome
import CallBoundary.Proofs.Wire.RoundTrip

/-!
# What becomes of a value in a buffer

Lifting from a buffer gives what its bytes stand for, whatever the allocator, as long as it takes
back what it is given (`lift_outcome`).  The native side's allocator does, and it has room for
every value that can be lowered at all (`lower_eq`).
-/

namespace CallBoundary

/-! ### Lifting -/

theorem Schema.lifted_of_ok (S : Schema) (t : WireType) (bs : Bytes) :
    S.lifted t bs (.ok ()) = S.readOuter t bs := by
  unfold lifted
  cases S.readOuter t bs with
  | ok v => cases t <;> rfl
  | error e => cases t <;> rfl

/-- Nothing is lifted from a buffer that is not taken back. -/
theorem Schema.lifted_of_error (S : Schema) (t : WireType) (bs : Bytes) (e : WireError) :
    ∃ e', S.lifted t bs (.error e) = .error e' := by
  unfold lifted
  cases S.readOuter t bs with
  | ok v => cases t <;> exact ⟨_, rfl⟩
  | error e => cases t <;> exact ⟨_, rfl⟩

/-- Every buffer with a sound layout is taken back. -/
def Allocator.Accepts (A : Allocator σ) : Prop :=
  ∀ b s, b.check = .ok () → ∃ s', A.free b s = .ok () s'

theorem Allocator.Accepts.onPart {A : Allocator σ} (hA : A.Accepts) (part : τ → σ)
    (update : τ → σ → τ) : (A.onPart part update).Accepts := by
  intro b t hb
  obtain ⟨s', hs⟩ := hA b (part t) hb
  refine ⟨update t s', ?_⟩
  show CallBoundary.onPart part update (A.free b) t = _
  rw [CallBoundary.onPart, hs]

/-- What the bytes of a buffer stand for, if its layout is sound. -/
def Schema.contents (S : Schema) (t : WireType) (b : Buffer) : Except WireError Value :=
  match b.check with
  | .ok () => S.readOuter t b.contents
  | .error e => .error e

/-- **Lifting gives what the bytes stand for**, if the buffer is taken back. -/
theorem Schema.lift_outcome_of_free (S : Schema) {A : Allocator σ} (t : WireType) {b : Buffer} {s : σ}
    (taken : b.check = .ok () → ∃ s', A.free b s = .ok () s') :
    outcome (S.lift A t b) s = S.contents t b := by
  rw [lift_eq, contents]
  cases hb : b.check with
  | error e =>
    exact outcome_error (bind_of_error (ofExcept_of_error rfl s) _)
  | ok u =>
    obtain ⟨s', hs⟩ := taken hb
    refine (outcome_bind_of_ok (ofExcept_of_ok rfl s) _).trans ?_
    refine (outcome_bind_of_ok (liftM_attempt_of_ok hs) _).trans ?_
    rw [outcome, attempt_ofExcept, lifted_of_ok]

/-- So it does with an allocator that takes back all it is given. -/
theorem Schema.lift_outcome (S : Schema) {A : Allocator σ} (hA : A.Accepts) (t : WireType)
    (b : Buffer) (s : σ) : outcome (S.lift A t b) s = S.contents t b :=
  S.lift_outcome_of_free t (hA b s)

/-- Lifting touches what the allocator touches. -/
theorem Schema.lift_keeps (S : Schema) {A : Allocator σ} {f : σ → τ}
    (hA : ∀ b, Keeps f (attempt (A.free b))) (t : WireType) (b : Buffer) :
    Keeps f (attempt (S.lift A t b)) := by
  rw [lift_eq]
  refine (keeps_ofExcept b.check).attempt_bind fun _ => ?_
  exact (hA b).attempt_liftM.attempt_bind fun _ => keeps_ofExcept _

/-! ### Whole contents -/

/-- Whether the lengths and counts that are written fit when a value is the whole contents of a
buffer.  That of a text or byte run is not written then, for it is the buffer's own. -/
def Value.fitsOuter : Value → Bool
  | text _ | bytes _ => true
  | v => v.fits

theorem Value.fitsOuter_of_fits {v : Value} (h : v.fits = true) : v.fitsOuter = true := by
  cases v with
  | text s => rfl
  | bytes bs => rfl
  | _ => exact h

/-- What was the whole contents of a buffer is read back from it. -/
theorem Schema.readOuter_whole (S : Schema) {t : WireType} {v : Value}
    (typed : v.hasType S t = true) (bounded : v.fitsOuter = true) (distinct : v.keyed = true) :
    S.readOuter t v.encodeOuter = .ok v := by
  have hread : v.fits = true → (S.read t).all v.encode = .ok v := by
    intro hfit
    have h := S.reads_encode v typed hfit distinct 0 []
    rw [List.append_nil] at h
    rw [Reader.all, Cursor.start, h]
    rfl
  cases v with
  | text s =>
    cases t <;> simp only [Value.hasType, Bool.false_eq_true] at typed
    simp [readOuter, Value.encodeOuter, Reader.ofText, decodeText_encodeText, Except.map]
  | bytes bs =>
    cases t <;> simp only [Value.hasType, Bool.false_eq_true] at typed
    rfl
  | _ =>
    have hread := hread bounded
    rw [← map_readLater] at hread
    cases t <;> simp only [Value.hasType, Bool.false_eq_true] at typed
    all_goals exact hread

/-- A buffer that holds the whole of a value stands for it. -/
theorem Schema.contents_whole (S : Schema) {t : WireType} {v : Value} {b : Buffer}
    (typed : v.hasType S t = true) (bounded : v.fitsOuter = true) (distinct : v.keyed = true)
    (sound : b.check = .ok ()) (holds : b.contents = v.encodeOuter) : S.contents t b = .ok v := by
  unfold contents
  rw [sound, holds, S.readOuter_whole typed bounded distinct]

/-! ### Lowering -/

namespace Value

theorem length_encodeOuter (v : Value) : v.encodeOuter.length = v.outerLength := by
  cases v with
  | text s => rfl
  | bytes bs => rfl
  | _ => exact length_encode _

/-- Who succeeds in writing a value as the contents of a region has written just that. -/
theorem writes_encodeOuter (v : Value) : v.writeOuter.Writes v.encodeOuter := by
  cases v with
  | text s => exact (Writer.appends_put _).writes
  | bytes bs => exact (Writer.appends_put _).writes
  | _ => exact writes_encode _

theorem fitsOuter_of_writeOuter {v : Value} {r r' : Region} (h : v.writeOuter r = .ok () r') :
    v.fitsOuter = true := by
  cases v with
  | text s => rfl
  | bytes bs => rfl
  | _ => exact fits_of_write _ h

/-- There is no more to writing a value as the contents of a region than room for it. -/
theorem writeOuter_of_room {v : Value} {r : Region} (bounded : v.fitsOuter = true)
    (enough : v.outerLength ≤ r.available) :
    v.writeOuter r = .ok () (r.push v.encodeOuter) := by
  cases v with
  | text s => exact Writer.put_eq enough
  | bytes bs => exact Writer.put_eq enough
  | _ => exact write_eq _ bounded enough

/-- A value that fits is written whole as the contents of any region with room for it. -/
theorem writeOuter_eq {v : Value} {r : Region} (bounded : v.fits = true)
    (enough : v.outerLength ≤ r.available) :
    v.writeOuter r = .ok () (r.push v.encodeOuter) :=
  writeOuter_of_room (fitsOuter_of_fits bounded) enough

/-- Lowering touches what the allocator touches. -/
theorem lower_keeps {A : Allocator σ} {f : σ → τ} (ha : ∀ n, Keeps f (attempt (A.alloc n)))
    (hf : ∀ b, Keeps f (attempt (A.free b))) (v : Value) : Keeps f (attempt (v.lower A)) := by
  rw [lower_eq]
  refine (ha _).attempt_bind ?_
  intro b
  refine (keeps_ofExcept b.check).attempt_bind ?_
  intro _
  rcases v.writeOuter.runOn (.fresh b.contents) with ⟨e | ⟨⟩, r⟩
  · exact (hf b).attempt_bind fun _ _ => rfl
  · exact fun _ => rfl

section Lower

variable {A : Allocator σ} {v : Value} {b : Buffer} {s s' : σ}

/-- A buffer that a value was written to holds it. -/
theorem filled_of_ok {r : Region} (hw : v.writeOuter (.fresh b.contents) = .ok () r) :
    filled A b (v.writeOuter.runOn (.fresh b.contents)) = pure (b.overwrite v.encodeOuter) := by
  obtain ⟨-, rfl⟩ := v.writes_encodeOuter _ r hw
  rw [Writer.runOn, hw, filled, Region.written_push, Region.written_fresh, List.nil_append]

/-- A buffer that a value could not be written to goes back. -/
theorem filled_of_error {r : Region} {e : WireError}
    (hw : v.writeOuter (.fresh b.contents) = .error e r) :
    filled A b (v.writeOuter.runOn (.fresh b.contents)) = (do A.free b; throw e) := by
  rw [Writer.runOn, hw]
  rfl

/-- A value is lowered into a buffer with room for it. -/
theorem lower_of_room (asked : A.alloc v.outerLength s = .ok b s') (layout : b.check = .ok ())
    (bounded : v.fitsOuter = true) (room : v.outerLength ≤ b.contents.length) :
    v.lower A s = .ok (b.overwrite v.encodeOuter) s' := by
  have hwrite := writeOuter_of_room (r := .fresh b.contents) bounded room
  rw [lower_eq, bind_of_ok asked, bind_of_ok (ofExcept_of_ok layout s'), filled_of_ok hwrite]
  rfl

/-- What was lowered was written whole to the buffer that was asked for. -/
theorem lower_ok (h : v.lower A s = .ok b s') :
    ∃ b₀, A.alloc v.outerLength s = .ok b₀ s' ∧ b₀.check = .ok () ∧ v.fitsOuter = true ∧
      v.outerLength ≤ b₀.contents.length ∧ b = b₀.overwrite v.encodeOuter := by
  rw [lower_eq] at h
  obtain ⟨b₀, s₁, asked, h⟩ := bind_ok h
  obtain ⟨⟨⟩, s₂, hcheck, h⟩ := bind_ok h
  obtain ⟨layout, rfl⟩ := ofExcept_ok hcheck
  cases hw : v.writeOuter (.fresh b₀.contents) with
  | error e r =>
    rw [filled_of_error hw] at h
    obtain ⟨⟨⟩, s₂, -, h⟩ := bind_ok h
    cases h
  | ok u r =>
    obtain ⟨room, -⟩ := v.writes_encodeOuter _ r hw
    rw [length_encodeOuter] at room
    rw [filled_of_ok hw] at h
    obtain ⟨rfl, rfl⟩ := pure_ok h
    exact ⟨b₀, asked, layout, fitsOuter_of_writeOuter hw, room, rfl⟩

end Lower

end Value

/-- A buffer that was overwritten from its start holds what was written. -/
theorem Buffer.overwrite_block (blk : Block) (n : Nat) (bs : Bytes) :
    ((⟨.block blk, n⟩ : Buffer).overwrite bs).check = .ok () ∧
      ((⟨.block blk, n⟩ : Buffer).overwrite bs).length = bs.length ∧
      ((⟨.block blk, n⟩ : Buffer).overwrite bs).contents = bs := by
  have hle : bs.length ≤ (blk.overwrite bs).size := by
    simp only [Block.size, Block.overwrite, List.length_append]
    omega
  refine ⟨if_pos hle, rfl, ?_⟩
  show (blk.overwrite bs).first bs.length = bs
  rw [Block.first_eq, Block.bytes_overwrite, List.take_left]

/-! ### The allocator of the native side -/

namespace Native

/-- What has a sound layout is taken back. -/
theorem free_eq {b : Buffer} (layout : b.check = .ok ()) (h : Heap) :
    Native.allocator.free b h = .ok () (b.address?.elim h.noteFree h.noteFree.release) := by
  cases ha : b.address? with
  | none =>
    simp only [allocator, layout, ha]
    rfl
  | some a =>
    simp only [allocator, layout, ha]
    rfl

theorem allocator_accepts : Native.allocator.Accepts := fun _ h layout => ⟨_, free_eq layout h⟩

theorem alloc_eq {n : Nat} (short : n ≤ maxLength) (h : Heap) : Native.allocator.alloc n h =
    .ok (.ofBlock ⟨h.next, [], n⟩) ((h.noteRequest n).place [] n).2 := if_pos short

theorem alloc_tooLong {n : Nat} (long : maxLength < n) (h : Heap) :
    Native.allocator.alloc n h = .error (tooLong n) (h.noteRequest n) := if_neg (Nat.not_le.2 long)

/-- There is room for any value whose length can be told, in a new block. -/
theorem lower_eq {v : Value} (bounded : v.fitsOuter = true) (short : v.outerLength ≤ maxLength)
    (h : Heap) : ∃ b, v.lower Native.allocator h =
        .ok b ((h.noteRequest v.outerLength).place [] v.outerLength).2 ∧
      b.check = .ok () ∧ b.length = v.outerLength ∧ b.contents = v.encodeOuter ∧
      b.address? = some h.next := by
  let blk : Block := ⟨h.next, [], v.outerLength⟩
  obtain ⟨hcheck, hlen, hcontents⟩ := Buffer.overwrite_block blk blk.size v.encodeOuter
  refine ⟨_, ?_, hcheck, hlen.trans v.length_encodeOuter, hcontents, rfl⟩
  have hsound : (Buffer.ofBlock blk).check = .ok () := if_pos (Nat.le_refl _)
  have hroom : v.outerLength ≤ (Buffer.ofBlock blk).contents.length := by
    show v.outerLength ≤ (blk.first blk.size).length
    rw [Block.first_eq, List.take_of_length_le (Nat.le_of_eq blk.length_bytes), blk.length_bytes]
    exact Nat.le_add_left ..
  exact Value.lower_of_room (alloc_eq short h) hsound bounded hroom

/-- A value that is too long is not lowered. -/
theorem lower_tooLong {v : Value} (long : maxLength < v.outerLength) (h : Heap) :
    v.lower Native.allocator h = .error (tooLong v.outerLength) (h.noteRequest v.outerLength) :=
  bind_of_error (alloc_tooLong long h) _

section Message

variable {m : String} {h h' : Heap}

theorem messageBuffer_of_ok {b : Buffer} (hl : (Value.text m).lower Native.allocator h = .ok b h') :
    messageBuffer (some m) h = (b, h') := by
  simp only [messageBuffer, stateM_bind, attempt_ok hl]
  rfl

theorem messageBuffer_of_error {e : WireError}
    (hl : (Value.text m).lower Native.allocator h = .error e h') :
    messageBuffer (some m) h = (.unallocated, h') := by
  simp only [messageBuffer, stateM_bind, attempt_error hl]
  rfl

end Message

section Run

variable {α : Type} {zero : α} {body : Body α} {h h' : Heap}

theorem run_eq_of_ok {a : α} (hb : body h = .ok a h') (s : Status) :
    run zero body s h = ((a, s.setSuccess), h') := by
  unfold run
  rw [stateM_bind, attempt_ok hb]
  rfl

/-- A message is reported alike, whether it is a fault's or a panic's. -/
theorem run_eq_of_broken {f : Fault} {text : Option String} (hb : body h = .error f h')
    (hf : f = .panic text ∨ ∃ m, f = .internal m ∧ text = some m) (s : Status) :
    run zero body s h =
      ((zero, .ofPanic (messageBuffer text h').1), (messageBuffer text h').2) := by
  unfold run
  rw [stateM_bind, attempt_error hb]
  rcases hf with rfl | ⟨m, rfl, rfl⟩
  · rfl
  · rfl

end Run

end Native

end CallBoundary
