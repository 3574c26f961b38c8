import CallBoundary.Proofs.Buffer.Transfer
import CallBoundary.Proofs.Native.Course

/-!
# What a future answers

A future that is asked for its result answers with the outcome that its state stands for
(`FutureState.outcome`), as a call does that ended so: a value comes as it is, a declared error in
its own buffer, and a message in a buffer that is made for it.  So of two futures in one state the
answers differ at most in where a message lies (`reply_alike`).
-/

namespace CallBoundary

/-- A buffer, apart from where its data lies. -/
def Buffer.unplaced (b : Buffer) : Buffer :=
  match b.storage with
  | .null _ => b
  | .block blk => { b with storage := .block { blk with address := 0 } }

namespace Native

/-! ### Messages -/

/-- The buffer of a text, at this address. -/
def textAt (address : Nat) (m : String) : Buffer :=
  ⟨.block ⟨address, encodeText m, 0⟩, (encodeText m).length⟩

/-- The bytes that report a text.  There are none if there is no text, or no buffer large enough. -/
def textBytes : Option String → Bytes
  | none => []
  | some m => if (encodeText m).length ≤ maxLength then encodeText m else []

section Messages

variable {m : String} (h : Heap)

theorem messageBuffer_short (hm : (encodeText m).length ≤ maxLength) :
    messageBuffer (some m) h = (textAt h.next m,
      ((h.noteRequest (encodeText m).length).place [] (encodeText m).length).2) := by
  let blk : Block := ⟨h.next, [], (encodeText m).length⟩
  have hroom : (Value.text m).outerLength ≤ (Buffer.ofBlock blk).contents.length := by
    show (encodeText m).length ≤ (blk.first blk.size).length
    simp [blk, Block.first, Block.size]
  have hlower := Value.lower_of_room (v := .text m) (alloc_eq hm h) (if_pos (Nat.le_refl _)) rfl hroom
  have hb : (Buffer.ofBlock blk).overwrite (encodeText m) = textAt h.next m := by
    simp [Buffer.overwrite, Buffer.ofBlock, Block.overwrite, textAt, blk]
  rw [messageBuffer_of_ok hlower]
  exact congrArg (·, _) hb

theorem messageBuffer_long (hm : maxLength < (encodeText m).length) :
    messageBuffer (some m) h = (.unallocated, h.noteRequest (encodeText m).length) := by
  have hlower := lower_tooLong (v := .text m) hm h
  exact messageBuffer_of_error hlower

theorem messageBuffer_contents (text : Option String) :
    (messageBuffer text h).1.contents = textBytes text := by
  cases text with
  | none => rfl
  | some m =>
    by_cases hm : (encodeText m).length ≤ maxLength
    · simp [messageBuffer_short h hm, textBytes, hm, textAt, Buffer.contents, Block.first]
    · rw [messageBuffer_long h (Nat.not_le.1 hm), textBytes, if_neg hm]
      rfl

theorem messageBuffer_unplaced (text : Option String) (h' : Heap) :
    (messageBuffer text h).1.unplaced = (messageBuffer text h').1.unplaced := by
  cases text with
  | none => rfl
  | some m =>
    by_cases hm : (encodeText m).length ≤ maxLength
    · rw [messageBuffer_short h hm, messageBuffer_short h' hm]
      rfl
    · rw [messageBuffer_long h (Nat.not_le.1 hm), messageBuffer_long h' (Nat.not_le.1 hm)]

/-- A message lies where nothing lay before. -/
theorem messageBuffer_fresh (text : Option String) :
    (messageBuffer text h).2.released = h.released ∧ h.next ≤ (messageBuffer text h).2.next ∧
      ∀ a, (messageBuffer text h).1.address? = some a → h.next ≤ a := by
  cases text with
  | none => exact ⟨rfl, Nat.le_refl _, nofun⟩
  | some m =>
    by_cases hm : (encodeText m).length ≤ maxLength
    · rw [messageBuffer_short h hm]
      refine ⟨rfl, Nat.le_succ _, ?_⟩
      rintro a ⟨⟩
      exact Nat.le_refl _
    · rw [messageBuffer_long h (Nat.not_le.1 hm)]
      exact ⟨rfl, Nat.le_refl _, nofun⟩

end Messages

/-! ### Results -/

/-- The outcome that a future answers with when it is asked for its result. -/
def FutureState.outcome : FutureState α → Except Fault α
  | complete r => r
  | running _ => .error (.internal "Future completed before it was ready")
  | consumed => .error (.internal "Future result already consumed or cancelled")

/-- A reply hands an outcome over: a value with a success, a declared error in its buffer, and a
message in the buffer of a panic.  With a failure comes the zero value. -/
def Reply.Tells (zero : α) : Except Fault α → Reply α → Prop
  | .ok a, reply => reply = .result a {}
  | .error (.domain b), reply => reply = .result zero (.ofError b)
  | .error (.internal m), reply =>
    ∃ b : Buffer, reply = .result zero (.ofPanic b) ∧ b.contents = textBytes (some m)
  | .error (.panic text), reply =>
    ∃ b : Buffer, reply = .result zero (.ofPanic b) ∧ b.contents = textBytes text

/-- Two replies are the same, or tell the same message from different places. -/
inductive Reply.Alike : Reply α → Reply α → Prop
  | same (r : Reply α) : Alike r r
  | message (a : α) {b b' : Buffer} : b.unplaced = b'.unplaced →
      Alike (.result a (.ofPanic b)) (.result a (.ofPanic b'))

section Results

variable (zero : α) (f : Future α) (h h' : Heap)

theorem step_complete_eq : FutureRun.step zero ⟨f, false⟩ .complete h =
    let call := run zero (ofExcept f.state.outcome) {} h
    (((.result call.1.1 call.1.2, []), ⟨f.next .complete, false⟩), call.2) := by
  rcases f with ⟨_ | _ | _, _, _⟩ <;> rfl

theorem tells_complete :
    (FutureRun.step zero ⟨f, false⟩ .complete h).1.1.1.Tells zero f.state.outcome := by
  rw [step_complete_eq]
  rcases f.state.outcome with ⟨b | m | text⟩ | a
  · rfl
  · exact ⟨_, rfl, messageBuffer_contents h (some m)⟩
  · exact ⟨_, rfl, messageBuffer_contents h text⟩
  · rfl

theorem complete_alike : (FutureRun.step zero ⟨f, false⟩ .complete h).1.1.1.Alike
    (FutureRun.step zero ⟨f, false⟩ .complete h').1.1.1 := by
  rw [step_complete_eq, step_complete_eq]
  rcases f.state.outcome with ⟨b | m | text⟩ | a
  · exact .same _
  · exact .message zero (messageBuffer_unplaced h (some m) h')
  · exact .message zero (messageBuffer_unplaced h text h')
  · exact .same _

/-- **A reply depends on the future alone**, but for where a message lies. -/
theorem reply_alike {s : Step} (hs : s ≠ .free) : (FutureRun.step zero ⟨f, false⟩ s h).1.1.1.Alike
    (FutureRun.step zero ⟨f, false⟩ s h').1.1.1 := by
  cases s with
  | poll d => exact .same _
  | wake =>
    cases hk : f.wakerKept with
    | false =>
      rw [FutureRun.step_wake_of_none zero f h hk, FutureRun.step_wake_of_none zero f h' hk]
      exact .same _
    | true =>
      rw [FutureRun.step_wake zero f h hk, FutureRun.step_wake zero f h' hk]
      exact .same _
  | cancel => exact .same _
  | complete => exact complete_alike zero f h h'
  | free => exact absurd rfl hs

end Results

end Native

end CallBoundary
