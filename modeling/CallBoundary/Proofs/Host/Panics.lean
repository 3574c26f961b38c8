import CallBoundary.Proofs.Host.Readers

/-!
# What is told of a panic

The status of a panic has a buffer with a message, and its readers decide for themselves whether
there is one.  The host looks at the length that the buffer claims, and then at the bytes, if the
layout allows it; the native side looks at whether there is a buffer at all, and then reads the whole
of it as text.  So either has a case in which it tells of an empty message: the host, of a buffer
that claims bytes and cannot be looked at; the native side, of a buffer without bytes.  In all other
cases what is told is not empty, and it is the text of the bytes if they are text (`panic_told`).
-/

namespace CallBoundary

/-! ### The text in a buffer -/

namespace Buffer

/-- The text that a buffer holds. -/
def text (b : Buffer) : Except WireError String :=
  match b.check with
  | .ok () => Reader.ofText b.contents
  | .error w => .error w

theorem contents_eq_nil {b : Buffer} (layout : b.check = .ok ()) :
    b.contents = [] ↔ b.length = 0 := by
  rw [← List.length_eq_zero_iff, b.length_contents layout]

/-- A buffer holds the empty text if it has no bytes, and only then. -/
theorem text_empty {b : Buffer} : b.text = .ok "" ↔ b.check = .ok () ∧ b.length = 0 := by
  unfold text
  cases hb : b.check with
  | error w => simp
  | ok u =>
    rw [← contents_eq_nil hb, ← decodeText_empty, Reader.ofText]
    cases decodeText b.contents <;> simp

end Buffer

theorem Schema.contents_text (S : Schema) (b : Buffer) :
    S.contents .text b = b.text.map .text := by
  unfold contents Buffer.text
  cases b.check <;> rfl

/-! ### The host -/

namespace Host

/-- What the host says of a panic, from the buffer of its message. -/
structure Says (b : Buffer) (e : InternalError) : Prop where
  without : e = .panicWithoutMessage ↔ b.length = 0
  message : b.check = .ok () → b.length ≠ 0 → e = .panic (decodeLossy b.contents)
  /-- The message is empty for a buffer that claims bytes and cannot be looked at, and for no
  other. -/
  empty : e = .panic "" ↔ b.check ≠ .ok () ∧ b.length ≠ 0

section Says

variable {b : Buffer}

theorem panicError_of_length_zero (bare : b.length = 0) :
    panicError (.ofBuffer b) = .panicWithoutMessage :=
  if_pos (beq_iff_eq.2 bare)

theorem panicError_of_length (claimed : b.length ≠ 0) :
    panicError (.ofBuffer b) = .panic (decodeLossy (OwnedBuffer.ofBuffer b).contents) :=
  if_neg fun h => claimed (beq_iff_eq.1 h)

theorem panicError_of_sound (layout : b.check = .ok ()) (claimed : b.length ≠ 0) :
    panicError (.ofBuffer b) = .panic (decodeLossy b.contents) := by
  rw [panicError_of_length claimed, OwnedBuffer.contents_of_sound layout]

theorem panicError_of_broken (layout : b.check ≠ .ok ()) (claimed : b.length ≠ 0) :
    panicError (.ofBuffer b) = .panic "" := by
  have hview : (OwnedBuffer.ofBuffer b).contents = [] := by
    cases hb : b.check with
    | ok u => exact absurd hb layout
    | error w => exact OwnedBuffer.contents_of_broken hb
  rw [panicError_of_length claimed, hview, decodeLossy_eq_empty.2 rfl]

theorem panicError_says (b : Buffer) : Says b (panicError (.ofBuffer b)) := by
  constructor
  · constructor
    · intro h
      refine Decidable.byContradiction fun claimed => ?_
      rw [panicError_of_length claimed] at h
      cases h
    · exact panicError_of_length_zero
  · exact panicError_of_sound
  · constructor
    · intro h
      have claimed : b.length ≠ 0 := by
        intro bare
        rw [panicError_of_length_zero bare] at h
        cases h
      refine ⟨fun layout => claimed ?_, claimed⟩
      -- bytes that can be looked at read as some text
      rw [panicError_of_sound layout claimed, InternalError.panic.injEq, decodeLossy_eq_empty] at h
      exact (Buffer.contents_eq_nil layout).1 h
    · exact fun h => panicError_of_broken h.1 h.2

/-- Whether or not errors are declared, a panic is read the same. -/
theorem checkStatus_panic (S : Schema) (A : Allocator σ) (errorType : WireType) {s : Status}
    (kind : s.kind? = some .panic) (st : σ) :
    (checkStatus S A errorType s st).1 = .error (.internal (panicError (.ofBuffer s.payload))) := by
  rw [checkStatus_of_panic S A errorType kind]
  rfl

theorem checkInternalStatus_panic (A : Allocator σ) {s : Status} (kind : s.kind? = some .panic)
    (st : σ) : (checkInternalStatus A s st).1 = .error (panicError (.ofBuffer s.payload)) := by
  rw [checkInternalStatus_of_panic A kind]
  rfl

end Says

end Host

/-! ### The native side -/

namespace Native

/-- What the native side says of a callback's panic, from the buffer of its message. -/
structure Says (b : Buffer) (m : String) : Prop where
  without : b.isUnallocated = true → m = "callback failed without a message"
  message : b.isUnallocated = false → ∀ t, b.text = .ok t → m = t
  unreadable : b.isUnallocated = false → ∀ w, b.text = .error w →
    m = s!"callback failed with an unreadable message: {w.message}"
  /-- The message is empty for a buffer that is there and has no bytes, and for no other. -/
  empty : m = "" ↔ b.isUnallocated = false ∧ b.check = .ok () ∧ b.length = 0

section Says

variable (S : Schema) {b : Buffer} (h : Heap)

theorem foreignPanic_of_unallocated (nothing : b.isUnallocated = true) :
    (foreignPanic S b h).1 = "callback failed without a message" := by
  unfold foreignPanic
  rw [if_pos nothing]
  rfl

theorem foreignPanic_of_text {t : String} (there : b.isUnallocated = false) (ht : b.text = .ok t) :
    (foreignPanic S b h).1 = t := by
  have hlift : (attempt (S.lift allocator .text b) h).1 = .ok (.text t) := by
    have hout := S.lift_outcome allocator_accepts .text b h
    rwa [S.contents_text, ht] at hout
  unfold foreignPanic
  rw [if_neg (by simp [there]), stateM_bind, hlift]
  rfl

theorem foreignPanic_of_unreadable {w : WireError} (there : b.isUnallocated = false)
    (hw : b.text = .error w) : (foreignPanic S b h).1 =
      s!"callback failed with an unreadable message: {w.message}" := by
  have hlift : (attempt (S.lift allocator .text b) h).1 = .error w := by
    have hout := S.lift_outcome allocator_accepts .text b h
    rwa [S.contents_text, hw] at hout
  unfold foreignPanic
  rw [if_neg (by simp [there]), stateM_bind, hlift]
  rfl

theorem unreadable_ne_empty (m : String) :
    s!"callback failed with an unreadable message: {m}" ≠ "" := by
  intro h
  have h := congrArg String.toList h
  simp [toString] at h

theorem foreignPanic_says (b : Buffer) : Says b (foreignPanic S b h).1 := by
  constructor
  · exact foreignPanic_of_unallocated S h
  · exact fun there t => foreignPanic_of_text S h there
  · exact fun there w => foreignPanic_of_unreadable S h there
  · rw [← Buffer.text_empty]
    cases hu : b.isUnallocated with
    | true =>
      rw [foreignPanic_of_unallocated S h hu]
      simp
    | false =>
      cases ht : b.text with
      | ok t =>
        rw [foreignPanic_of_text S h hu ht]
        simp
      | error w =>
        rw [foreignPanic_of_unreadable S h hu ht]
        simp only [unreadable_ne_empty, reduceCtorEq, and_false]

end Says

end Native

/-! ### All readers -/

/-- **What is told of a panic.**  The host says the same of its message where errors are declared and
where they are not, whatever the allocator, and the native side says what it makes of it. -/
theorem panic_told (S : Schema) (A : Allocator σ) (errorType : WireType) {s : Status}
    (kind : s.kind? = some .panic) (st st' : σ) (h : Heap) : ∃ e m,
      (Host.checkStatus S A errorType s st).1 = .error (.internal e) ∧
      (Host.checkInternalStatus A s st').1 = .error e ∧ Host.Says s.payload e ∧
      (Native.checkForeign S errorType s h).1 = .error (.unexpected m) ∧
      Native.Says s.payload m :=
  ⟨_, _, Host.checkStatus_panic S A errorType kind st, Host.checkInternalStatus_panic A kind st',
    Host.panicError_says s.payload, Native.checkForeign_panic_unexpected S errorType h kind,
    Native.foreignPanic_says S h s.payload⟩

/-- A byte that is no text makes a message all the same, on both sides. -/
theorem panic_told_unreadable :
    let b : Buffer := .ofBlock ⟨7, [0xff], 0⟩
    (Status.ofPanic b).kind? = some .panic ∧
    (Host.checkInternalStatus Host.nativeEntries.allocator (.ofPanic b) {}).1 =
      .error (.panic (decodeLossy [0xff])) ∧
    (Host.checkInternalStatus Host.nativeEntries.allocator (.ofPanic b) {}).1 ≠
      .error (.panic "") ∧
    (Native.checkForeign Sample.schema Sample.LogRejection.type (.ofPanic b) {}).1 ≠
      .error (.unexpected "") := by
  intro b
  obtain ⟨e, m, -, hinternal, hhost, hforeign, hnative⟩ := panic_told Sample.schema
    Host.nativeEntries.allocator Sample.LogRejection.type (s := .ofPanic b) rfl {} {} {}
  have hmessage := hhost.message rfl (by decide)
  rw [hinternal, hforeign]
  refine ⟨rfl, congrArg _ hmessage, ?_, ?_⟩
  · intro h
    exact (hhost.empty.1 (Except.error.inj h)).1 rfl
  · intro h
    have hm : m = "" := Native.ForeignFault.unexpected.inj (Except.error.inj h)
    exact absurd (hnative.empty.1 hm).2.2 (by decide)

/-- The host tells of an empty message where a buffer of a byte claims five, and the native side
where a buffer has no bytes. -/
theorem empty_message_told :
    let overlong : Buffer := ⟨.block ⟨7, [0x61], 0⟩, 5⟩
    let bare : Buffer := .ofBlock ⟨7, [], 0⟩
    (Host.checkStatus Sample.schema Host.nativeEntries.allocator Sample.SampleError.type
      (.ofPanic overlong) {}).1 = .error (.internal (.panic "")) ∧
    (Host.checkInternalStatus Host.nativeEntries.allocator (.ofPanic overlong) {}).1 =
      .error (.panic "") ∧
    (Native.checkForeign Sample.schema Sample.LogRejection.type (.ofPanic bare) {}).1 =
      .error (.unexpected "") := by
  intro overlong bare
  have hhost : Host.panicError (.ofBuffer overlong) = .panic "" :=
    Host.panicError_of_broken nofun (by decide)
  have hnative : (Native.foreignPanic Sample.schema bare {}).1 = "" :=
    Native.foreignPanic_of_text Sample.schema {} rfl (Buffer.text_empty.2 ⟨rfl, rfl⟩)
  refine ⟨?_, ?_, ?_⟩
  · rw [Host.checkStatus_panic (s := .ofPanic overlong) Sample.schema _ _ rfl, ← hhost]
    rfl
  · rw [Host.checkInternalStatus_panic (s := .ofPanic overlong) _ rfl, ← hhost]
    rfl
  · rw [Native.checkForeign_panic_unexpected (s := .ofPanic bare) _ _ _ rfl, ← hnative]
    rfl

end CallBoundary
