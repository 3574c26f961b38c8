import CallBoundary.Proofs.Host.Custody
import CallBoundary.Proofs.Native.Replies
import CallBoundary.Proofs.Text.Lossy

/-!
# Making room in a buffer

A buffer gets room for more bytes if its layout makes sense and all its bytes, with those to come,
are no more than the wire can tell the length of (`roomFor`).  The bytes that count stay as they are,
also where there was no block before or the block is another one now, so that any number of requests
leaves the bytes that were copied first (`Grown.holds`).  A request that is refused is a panic with a
message (`room_made`).
-/

namespace CallBoundary

/-! ### Messages -/

/-- No error is without wording. -/
theorem WireError.message_ne_empty (e : WireError) : e.message ≠ "" := by
  intro h
  unfold message at h
  -- each wording starts with a word of its own
  split at h
  all_goals
    simp only [String.append_eq_empty_iff, toString, String.reduceEq, false_and] at h

theorem Buffer.check_error {b : Buffer} {e : WireError} (broken : b.check = .error e) :
    e = .missingData b.capacity ∨ e = .lengthExceedsCapacity b.length b.capacity := by
  unfold check at broken
  split at broken
  next c hc =>
    cases broken
    exact .inl (by rw [capacity, hc])
  next =>
    split at broken
    · cases broken
    · cases broken
      exact .inr rfl

namespace Native

theorem length_toString_word {n : Nat} (word : n ≤ maxWord) : (toString n).length ≤ 20 := by
  have hn : n < 10 ^ 20 := by
    simp only [maxWord] at word
    omega
  exact (Nat.length_repr_le_iff (by decide)).2 hn

/-- There is a buffer for a message that is not too long, and it holds the message. -/
theorem messageBuffer_holds {m : String} (hm : (encodeText m).length ≤ maxLength) (h : Heap) :
    (messageBuffer (some m) h).1.check = .ok () ∧
      (messageBuffer (some m) h).1.contents = encodeText m :=
  ⟨(messageBuffer_handedOut h (some m)).layout,
    (messageBuffer_contents h (some m)).trans (if_pos hm)⟩

/-! ### The room there is -/

/-- Whether there may be room for so many more bytes in a buffer, and if not, why.  The limit is
looked at before the layout. -/
def roomFor (b : Buffer) (additional : Nat) : Except WireError Unit :=
  let target := min (b.length + additional) maxWord
  if maxLength < target then
    .error (.allocation s!"reserve to {target} bytes exceeds limit {maxLength}")
  else b.check

section Room

variable {b : Buffer} {additional : Nat}

/-- That a sum is cut off at the largest word lets none through that is too large. -/
theorem maxLength_lt_target : maxLength < min (b.length + additional) maxWord ↔
    maxLength < b.length + additional := by
  simp only [maxLength, maxWord]
  omega

theorem roomFor_eq_ok : roomFor b additional = .ok () ↔
    b.check = .ok () ∧ b.length + additional ≤ maxLength := by
  unfold roomFor
  simp only [maxLength_lt_target]
  by_cases long : maxLength < b.length + additional
  · simp only [if_pos long, Nat.not_le.2 long, and_false, reduceCtorEq]
  · simp only [if_neg long, Nat.not_lt.1 long, and_true]

/-- The wording for a broken layout has room for the numbers in it. -/
theorem length_message_check {e : WireError} (short : b.length ≤ maxWord)
    (words : b.capacity ≤ maxWord) (broken : b.check = .error e) : e.message.length ≤ 100 := by
  have hlength := length_toString_word short
  have hcapacity := length_toString_word words
  rcases Buffer.check_error broken with rfl | rfl
  · have hlen : ("Buffer has null data but capacity " ++ toString b.capacity).length =
        34 + (toString b.capacity).length := by
      rw [String.length_append]
      rfl
    exact Nat.le_trans (Nat.le_of_eq hlen) (by omega)
  · have hlen : ("Buffer length " ++ toString b.length ++ " exceeds capacity " ++
        toString b.capacity).length =
          14 + (toString b.length).length + 18 + (toString b.capacity).length := by
      simp only [String.length_append]
      rfl
    exact Nat.le_trans (Nat.le_of_eq hlen) (by omega)

theorem length_message_limit {target : Nat} (word : target ≤ maxWord) :
    (WireError.allocation s!"reserve to {target} bytes exceeds limit {maxLength}").message.length ≤
      100 := by
  have htarget := length_toString_word word
  have hlimit := length_toString_word (n := maxLength) (by decide)
  have hlen : ("Buffer allocation failed: " ++ ("reserve to " ++ toString target ++
      " bytes exceeds limit " ++ toString maxLength)).length =
        26 + (11 + (toString target).length + 21 + (toString maxLength).length) := by
    simp only [String.length_append]
    rfl
  exact Nat.le_trans (Nat.le_of_eq hlen) (by omega)

/-- There is room for what is said of a buffer that gets none. -/
theorem short_message_roomFor {e : WireError} (words : b.capacity ≤ maxWord)
    (refused : roomFor b additional = .error e) :
    (encodeText e.message).length ≤ maxLength := by
  have hmessage : e.message.length ≤ 100 := by
    unfold roomFor at refused
    simp only [maxLength_lt_target] at refused
    split at refused
    next =>
      obtain rfl := Except.error.inj refused
      exact length_message_limit (Nat.min_le_right ..)
    next short =>
      refine length_message_check ?_ words refused
      simp only [maxLength, maxWord] at short ⊢
      omega
  have hbytes := length_encodeText_le e.message
  unfold maxLength
  omega

/-! ### Growing -/

/-- A buffer that has grown is the same to its readers, and has room. -/
theorem grow_sound (layout : b.check = .ok ()) (additional : Nat) (h : Heap) :
    let b' := (grow b additional h).1
    b'.check = .ok () ∧ b'.length = b.length ∧ b'.contents = b.contents ∧
      b.length + additional ≤ b'.capacity := by
  cases hs : b.storage with
  | null c =>
    have hempty := Buffer.eq_unallocated layout (by rw [Buffer.address?, hs])
    rw [hempty]
    refine ⟨rfl, rfl, ?_, Nat.le_refl (0 + additional)⟩
    show (⟨h.next, [], additional⟩ : Block).first 0 = []
    rw [Block.first_eq, List.take_zero]
  | block blk =>
    by_cases room : b.length + additional ≤ blk.size
    · have hgrow : grow b additional h = (b, h) := by
        simp only [grow, hs, if_pos room]
      have hcapacity : b.capacity = blk.size := by rw [Buffer.capacity, hs]
      rw [hgrow]
      exact ⟨layout, rfl, rfl, hcapacity ▸ room⟩
    · -- the new block starts with what counts in the old one
      let new : Block := ⟨h.next, b.contents, additional⟩
      have hgrow : (grow b additional h).1 = ⟨.block new, b.length⟩ := by
        simp only [grow, hs, if_neg room]
        rfl
      have hlen := Buffer.length_contents layout
      have hsize : new.size = b.length + additional := congrArg (· + additional) hlen
      have hroom : b.length ≤ new.size := hsize ▸ Nat.le_add_right ..
      rw [hgrow]
      refine ⟨if_pos hroom, rfl, ?_, Nat.le_of_eq hsize.symm⟩
      show new.first b.length = b.contents
      rw [Block.first_eq, ← hlen]
      exact List.take_left

end Room

/-! ### Requests -/

section Requests

variable {b : Buffer} {additional : Nat} (s : Status) (h : Heap)

theorem reserveBuffer_eq (b : Buffer) (additional : Nat) (s : Status) :
    reserveBuffer b additional s = run .unallocated (ofWire do
      ofExcept (roomFor b additional)
      modifyGet (grow b additional)) s := by
  unfold reserveBuffer roomFor
  by_cases long : maxLength < min (b.length + additional) maxWord
  · simp only [if_pos long]
    rfl
  · simp only [if_neg long]

theorem reserveBuffer_of_room (room : roomFor b additional = .ok ()) :
    reserveBuffer b additional s h =
      (((grow b additional h).1, s.setSuccess), (grow b additional h).2) := by
  rw [reserveBuffer_eq]
  refine run_eq_of_ok (Host.ofWire_of_ok ?_) s
  rw [bind_of_ok (ofExcept_of_ok room h)]
  rfl

theorem reserveBuffer_of_refused {e : WireError} (refused : roomFor b additional = .error e) :
    reserveBuffer b additional s h = ((.unallocated, .ofPanic (messageBuffer (some e.message) h).1),
      (messageBuffer (some e.message) h).2) := by
  rw [reserveBuffer_eq]
  exact run_eq_of_broken (Host.ofWire_of_error (bind_of_error (ofExcept_of_error refused h) _))
    (.inr ⟨_, rfl, rfl⟩) s

/-- A request works if there may be room, and only then. -/
theorem reserveBuffer_works : (reserveBuffer b additional s h).1.2.kind? = some .success ↔
    roomFor b additional = .ok () := by
  cases hr : roomFor b additional with
  | ok u =>
    rw [reserveBuffer_of_room s h hr]
    exact ⟨fun _ => rfl, fun _ => rfl⟩
  | error e =>
    rw [reserveBuffer_of_refused s h hr]
    exact ⟨nofun, nofun⟩

/-- What a request for more room comes to. -/
structure Reserved (b : Buffer) (additional : Nat) (out : Buffer × Status) : Prop where
  /-- It works if the layout makes sense and the length that may come of it can be told. -/
  works : out.2.kind? = some .success ↔ b.check = .ok () ∧ b.length + additional ≤ maxLength
  /-- The bytes are the same, and there is room. -/
  keeps : out.2.kind? = some .success → out.1.check = .ok () ∧ out.1.length = b.length ∧
    out.1.contents = b.contents ∧ b.length + additional ≤ out.1.capacity
  /-- There is no buffer, but a message. -/
  refused : out.2.kind? ≠ some .success → out.1 = .unallocated ∧ out.2.kind? = some .panic ∧
    ∃ m, m ≠ "" ∧ out.2.payload.check = .ok () ∧ out.2.payload.contents = encodeText m

theorem reserved (words : b.capacity ≤ maxWord) (additional : Nat) :
    Reserved b additional (reserveBuffer b additional s h).1 := by
  constructor
  · rw [reserveBuffer_works, roomFor_eq_ok]
  · intro works
    have hroom := (reserveBuffer_works s h).1 works
    rw [reserveBuffer_of_room s h hroom]
    exact grow_sound (roomFor_eq_ok.1 hroom).1 additional h
  · intro fails
    cases hr : roomFor b additional with
    | ok u => exact absurd ((reserveBuffer_works s h).2 hr) fails
    | error e =>
      rw [reserveBuffer_of_refused s h hr]
      exact ⟨rfl, rfl, e.message, e.message_ne_empty,
        messageBuffer_holds (short_message_roomFor words hr) h⟩

end Requests

/-! ### Many requests -/

/-- A buffer into which some bytes were copied, and which got more room any number of times.  What
else the heap is used for in between does not matter. -/
inductive Grown (bs : Bytes) : Buffer → Prop
  | copied {lent : Borrowed} (bytes : lent.contents = .ok bs) (s : Status) (h : Heap) :
    Grown bs (bufferOfBytes lent s h).1.1
  | reserved {b : Buffer} (before : Grown bs b) (additional : Nat) (s : Status) (h : Heap)
    (works : (reserveBuffer b additional s h).1.2.kind? = some .success) :
    Grown bs (reserveBuffer b additional s h).1.1

theorem bufferOfBytes_ok {lent : Borrowed} {bs : Bytes} (bytes : lent.contents = .ok bs) (s : Status)
    (h : Heap) :
    bufferOfBytes lent s h = ((.ofBlock ⟨h.next, bs, 0⟩, s.setSuccess), (h.place bs 0).2) := by
  refine run_eq_of_ok (Host.ofWire_of_ok ?_) s
  rw [bind_of_ok (ofExcept_of_ok bytes h)]
  rfl

theorem Grown.holds {bs : Bytes} {b : Buffer} (grown : Grown bs b) :
    b.check = .ok () ∧ b.length = bs.length ∧ b.contents = bs := by
  induction grown with
  | copied bytes s h =>
    let blk : Block := ⟨h.next, bs, 0⟩
    rw [bufferOfBytes_ok bytes]
    refine ⟨if_pos (Nat.le_refl _), Nat.add_zero _, ?_⟩
    show blk.first blk.size = bs
    rw [Block.first_eq, List.take_of_length_le (Nat.le_of_eq blk.length_bytes)]
    exact List.append_nil bs
  | reserved before additional s h works ih =>
    obtain ⟨layout, hlen, hcontents⟩ := ih
    have hroom := (reserveBuffer_works s h).1 works
    obtain ⟨hlayout', hlen', hcontents', -⟩ := grow_sound layout additional h
    rw [reserveBuffer_of_room s h hroom]
    exact ⟨hlayout', hlen'.trans hlen, hcontents'.trans hcontents⟩

/-- **Making room.**  More room is made in a buffer just when its layout makes sense and its length
stays within the limit, and then its bytes are the same; else there is no buffer any more, but a
message.  However often room was made in a buffer, it holds the bytes that were copied into it.  The
numbers may be any at all, but for the capacity, which is a word, since a message tells it. -/
theorem room_made :
    (∀ (b : Buffer) (additional : Nat) (s : Status) (h : Heap), b.capacity ≤ maxWord →
      Reserved b additional (reserveBuffer b additional s h).1) ∧
    ∀ (bs : Bytes) (b : Buffer), Grown bs b →
      b.check = .ok () ∧ b.length = bs.length ∧ b.contents = bs :=
  ⟨fun _ additional s h words => reserved s h words additional, fun _ _ grown => grown.holds⟩

/-- Two bytes are copied, and there is room for three more, but not for so many that the sum is no
word. -/
theorem room_made_copied :
    let b := (bufferOfBytes ⟨2, some [1, 2]⟩ {} {}).1.1
    let larger := (reserveBuffer b 3 {} {}).1
    let overlong := (reserveBuffer b maxWord {} {}).1
    b.capacity ≤ maxWord ∧ Grown [1, 2] larger.1 ∧ larger.1.contents = [1, 2] ∧
      overlong.1 = .unallocated ∧ overlong.2.kind? = some .panic := by
  intro b larger overlong
  have copied : Grown [1, 2] b := .copied rfl {} {}
  obtain ⟨layout, hlen, -⟩ := room_made.2 [1, 2] b copied
  have words : b.capacity ≤ maxWord := by decide
  have hlarger := room_made.1 b 3 {} {} words
  have grown : Grown [1, 2] larger.1 := .reserved copied 3 {} {}
    (hlarger.works.2 ⟨layout, by rw [hlen]; decide⟩)
  have hover := room_made.1 b maxWord {} {} words
  obtain ⟨hbuffer, hkind, -⟩ := hover.refused fun works => by
    have hfits := (hover.works.1 works).2
    rw [hlen] at hfits
    exact absurd hfits (by decide)
  exact ⟨words, grown, (room_made.2 _ _ grown).2.2, hbuffer, hkind⟩

end Native

end CallBoundary
