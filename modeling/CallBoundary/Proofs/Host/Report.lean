import CallBoundary.Host.Invoke
import CallBoundary.Proofs.Buffer.Transfer
import CallBoundary.Proofs.Host.CallSteps
import CallBoundary.Proofs.Host.Entries
import CallBoundary.Proofs.Text.Lossy

/-!
# What a call comes to

The native side runs a body and reports how it ended through a status; the host reads the status
and lifts what was returned.  What the caller gets in the end depends on how the body ended, and on
nothing else: `report` says how.  It is the same for a call that waits (`finish_outcome`) and for
one that does not (`invoke_outcome`).
-/

namespace CallBoundary.Host

/-! ### Reading a status -/

/-- The error that a declared error's buffer stands for. -/
def declaredError (S : Schema) (errorType : WireType) (b : Buffer) : CallError :=
  match S.contents errorType b with
  | .ok e => .domain e
  | .error e => .internal (.wire e)

/-- What a status says. -/
def reading (S : Schema) (errorType : WireType) (s : Status) : Except CallError Unit :=
  match s.kind? with
  | some .success => .ok ()
  | some .error => .error (declaredError S errorType s.payload)
  | some .panic => .error (.internal (panicError (.ofBuffer s.payload)))
  | none => .error (.internal (.unknownStatus s.code))

/-- A lifting error is reported as an internal one. -/
def lifting (r : Except WireError α) : Except CallError α := r.mapError fun e => .internal (.wire e)

/-- What a call comes to, from what it returned. -/
def accepting (S : Schema) (errorType : WireType) (lifted : Lowered → Except WireError α)
    (call : Lowered × Status) : Except CallError α :=
  match reading S errorType call.2 with
  | .ok () => lifting (lifted call.1)
  | .error e => .error e

/-- A status is read the same whatever the allocator, if it takes the buffer back. -/
theorem checkStatus_of_free (S : Schema) {A : Allocator σ} (errorType : WireType) {s : Status}
    {st : σ} (taken : s.payload.check = .ok () → ∃ st', A.free s.payload st = .ok () st') :
    (checkStatus S A errorType s st).1 = reading S errorType s := by
  unfold reading
  cases hk : s.kind? with
  | none =>
    rw [checkStatus_of_unknown S A errorType hk]
    rfl
  | some k =>
    cases k with
    | success =>
      rw [checkStatus_of_success S A errorType hk]
      rfl
    | panic =>
      rw [checkStatus_of_panic S A errorType hk]
      rfl
    | error =>
      have hlift : (attempt (S.lift A errorType s.payload) st).1 = S.contents errorType s.payload :=
        S.lift_outcome_of_free errorType taken
      rw [checkStatus_of_error S A errorType hk]
      simp only [stateM_bind, hlift, declaredError]
      cases S.contents errorType s.payload with
      | ok e => rfl
      | error e => rfl

section Accepting

variable (S : Schema) {A : Allocator σ} (hA : A.Accepts) (errorType : WireType)

include hA

theorem checkStatus_eq (s : Status) (st : σ) :
    (checkStatus S A errorType s st).1 = reading S errorType s :=
  checkStatus_of_free S errorType (hA s.payload st)

omit hA in
/-- Reading a status touches what the allocator touches. -/
theorem returnValue_keeps {f : σ → τ} (hf : ∀ b, Keeps f (attempt (A.free b)))
    (call : α × Status) : Keeps f (returnValue S A errorType call) := by
  refine Keeps.bind ?_ (fun _ => keeps_pure _)
  cases hk : call.2.kind? with
  | none =>
    rw [checkStatus_of_unknown S A errorType hk]
    exact keeps_pure _
  | some k =>
    cases k with
    | success =>
      rw [checkStatus_of_success S A errorType hk]
      exact keeps_pure _
    | error =>
      rw [checkStatus_of_error S A errorType hk]
      refine (S.lift_keeps hf errorType _).bind ?_
      intro r
      cases r with
      | ok e => exact keeps_pure _
      | error e => exact keeps_pure _
    | panic =>
      rw [checkStatus_of_panic S A errorType hk]
      refine Keeps.bind ?_ (fun _ => keeps_pure _)
      show Keeps f (if call.2.payload.isUnallocated = true then pure () else _)
      split
      · exact keeps_pure _
      · exact (hf _).bind (fun _ => keeps_pure _)

variable {lift : Lowered → EStateM WireError σ α} {lifted : Lowered → Except WireError α}

/-- **A call that waited** comes to what its native side returned. -/
theorem finish_outcome (hl : ∀ l s, outcome (lift l) s = lifted l) (F : FutureEntries σ)
    (c : AsyncCall σ) : (AsyncCall.finish F S A errorType lift c).1 =
      accepting S errorType lifted (F.complete {} c.native).1 := by
  rcases hc : F.complete {} c.native with ⟨call, s⟩
  have hnoted : F.recorded.complete {} c.toRecorded = _ := FutureEntries.noted_eq hc
  have hread := checkStatus_eq S hA errorType call.2 s
  simp only [AsyncCall.finish, hnoted, returnValue, stateM_bind, accepting, hread]
  cases reading S errorType call.2 with
  | error e => rfl
  | ok u => exact congrArg lifting (hl call.1 _)

omit hA in
/-- Between collecting the result and giving the native future back, only the allocator and the
lifting touch the native side. -/
theorem finish_keeps {f : σ → τ} (hf : ∀ b, Keeps f (attempt (A.free b)))
    (hl : ∀ l, Keeps f (attempt (lift l))) (F : FutureEntries σ) (c : AsyncCall σ) :
    ∃ s, f s = f (F.complete {} c.native).2 ∧
      (AsyncCall.finish F S A errorType lift c).2 =
        AsyncCall.free F { c with native := s, calls := c.calls ++ [.complete], phase := .over } := by
  rcases hc : F.complete {} c.native with ⟨call, s⟩
  have hnoted : F.recorded.complete {} c.toRecorded = _ := FutureEntries.noted_eq hc
  have hs := returnValue_keeps S errorType hf call s
  rcases hr : returnValue S A errorType call s with ⟨r, s'⟩
  rw [hr] at hs
  cases r with
  | error e =>
    refine ⟨s', hs, ?_⟩
    simp only [AsyncCall.finish, hnoted, hr]
  | ok v =>
    refine ⟨(attempt (lift v) s').2, (hl v s').trans hs, ?_⟩
    simp only [AsyncCall.finish, hnoted, hr]
    rfl

/-- **A call that need not wait** does too. -/
theorem invoke_outcome (hl : ∀ l s, outcome (lift l) s = lifted l)
    (entry : Status → StateM σ (Lowered × Status)) (s : σ) :
    (invoke S A (some errorType) lift entry s).1 =
      accepting S errorType lifted (entry {} s).1 := by
  rcases hc : entry {} s with ⟨call, s'⟩
  have hread := checkStatus_eq S hA errorType call.2 s'
  simp only [invoke, returnValue, stateM_bind, accepting, hc, hread]
  cases reading S errorType call.2 with
  | error e => rfl
  | ok u => exact congrArg lifting (hl call.1 _)

omit hA in
/-- Once the function has returned, only the allocator and the lifting touch anything. -/
theorem invoke_keeps {f : σ → τ} (hf : ∀ b, Keeps f (attempt (A.free b)))
    (hl : ∀ l, Keeps f (attempt (lift l))) (entry : Status → StateM σ (Lowered × Status)) (s : σ) :
    f (invoke S A (some errorType) lift entry s).2 = f (entry {} s).2 := by
  rcases hc : entry {} s with ⟨call, s'⟩
  have hs := returnValue_keeps S errorType hf call s'
  rcases hr : returnValue S A errorType call s' with ⟨r, s''⟩
  rw [hr] at hs
  simp only [invoke, stateM_bind, hc, hr]
  cases r with
  | error e => exact hs
  | ok v => exact (hl v s'').trans hs

end Accepting

/-! ### Lifting whole values -/

/-- What the value that a call returned stands for. -/
def wholeValue (S : Schema) (t : WireType) : Lowered → Except WireError Value
  | .scalar s => if t = .bool then (Reader.boolOf s.toInt).map .bool else .ok (.scalar s)
  | .buffer b => S.contents t b
  | .pointer _ | .void => .ok .unit

theorem liftWhole_outcome (S : Schema) {A : Allocator σ} (hA : A.Accepts) (t : WireType)
    (l : Lowered) (s : σ) : outcome (S.liftWhole A t l) s = wholeValue S t l := by
  cases l with
  | scalar v => exact congrArg Prod.fst (attempt_ofExcept _ s)
  | pointer a => rfl
  | buffer b => exact S.lift_outcome hA t b s
  | void => rfl

theorem liftWhole_keeps (S : Schema) {A : Allocator σ} {f : σ → τ}
    (hf : ∀ b, Keeps f (attempt (A.free b))) (t : WireType) (l : Lowered) :
    Keeps f (attempt (S.liftWhole A t l)) := by
  cases l with
  | scalar v => exact keeps_ofExcept _
  | pointer a => exact fun _ => rfl
  | buffer b => exact S.lift_keeps hf t b
  | void => exact fun _ => rfl

/-! ### Messages -/

/-- The error that a message of the native side is reported as.  An empty message is none, and so is
one for which no buffer is large enough. -/
def messageError (m : String) : InternalError :=
  if m = "" ∨ maxLength < (encodeText m).length then .panicWithoutMessage else .panic m

theorem length_encodeText_eq_zero {m : String} : (encodeText m).length = 0 ↔ m = "" := by
  constructor
  · intro h
    have hnil : encodeText m = encodeText "" := List.length_eq_zero_iff.1 h
    rw [← decodeLossy_encodeText m, hnil, decodeLossy_encodeText]
  · rintro rfl
    rfl

/-- A message arrives as it was sent. -/
theorem panicError_messageBuffer (m : String) (h : Heap) :
    panicError (.ofBuffer (Native.messageBuffer (some m) h).1) = messageError m := by
  unfold messageError
  by_cases hlong : maxLength < (encodeText m).length
  · -- the message is lost, and the status goes without one
    rw [if_pos (.inr hlong)]
    rw [Native.messageBuffer_of_error (Native.lower_tooLong (v := .text m) hlong h)]
    rfl
  · -- the host reads the very bytes that were written
    have hshort := Nat.not_lt.1 hlong
    obtain ⟨b, hl, hcheck, hlen, hcontents, -⟩ := Native.lower_eq (v := .text m) rfl hshort h
    have hlen : b.length = (encodeText m).length := hlen
    have hread : (OwnedBuffer.ofBuffer b).contents = encodeText m :=
      (OwnedBuffer.contents_of_sound hcheck).trans hcontents
    have hempty : (OwnedBuffer.ofBuffer b).isEmpty = ((encodeText m).length == 0) :=
      congrArg (· == 0) hlen
    rw [Native.messageBuffer_of_ok hl, panicError_eq, hread, decodeLossy_encodeText, hempty]
    by_cases hm : m = ""
    · have hz : ((encodeText m).length == 0) = true :=
        beq_iff_eq.2 (length_encodeText_eq_zero.2 hm)
      rw [hz, if_pos rfl, if_pos (Or.inl hm)]
    · have hz : ((encodeText m).length == 0) = false := by
        refine beq_eq_false_iff_ne.2 ?_
        intro h
        exact hm (length_encodeText_eq_zero.1 h)
      rw [hz, if_neg Bool.false_ne_true, if_neg (by simp [hm, hlong])]

/-! ### Reports of bodies -/

/-- **What a call comes to**, from how the body of its native side ended. -/
def report (S : Schema) (errorType : WireType) (lifted : Lowered → Except WireError α) :
    Except Native.Fault Lowered → Except CallError α
  | .ok v => lifting (lifted v)
  | .error (.domain b) => .error (declaredError S errorType b)
  | .error (.internal m) => .error (.internal (messageError m))
  | .error (.panic (some m)) => .error (.internal (messageError m))
  | .error (.panic none) => .error (.internal .panicWithoutMessage)

/-- The status of a body says how it ended, whatever it said before. -/
theorem accepting_run (S : Schema) (errorType : WireType)
    (lifted : Lowered → Except WireError α) (zero : Lowered) (o : Except Native.Fault Lowered)
    (s : Status) (h : Heap) : accepting S errorType lifted (Native.run zero (ofExcept o) s h).1 =
      report S errorType lifted o := by
  unfold Native.run
  rw [stateM_bind, attempt_ofExcept]
  rcases o with ⟨b | m | ⟨_ | m⟩⟩ | v
  · rfl
  · have hm := panicError_messageBuffer m h
    exact congrArg (fun e => (Except.error (CallError.internal e) : Except CallError α)) hm
  · rfl
  · have hm := panicError_messageBuffer m h
    exact congrArg (fun e => (Except.error (CallError.internal e) : Except CallError α)) hm
  · rfl

/-- A declared error that was put into a buffer whole is the error that the caller gets. -/
theorem declaredError_eq (S : Schema) {errorType : WireType} {e : Value} {b : Buffer}
    (typed : e.hasType S errorType = true) (bounded : e.fits = true) (distinct : e.keyed = true)
    (sound : b.check = .ok ()) (holds : b.contents = e.encodeOuter) :
    declaredError S errorType b = .domain e := by
  unfold declaredError
  rw [S.contents_whole typed (Value.fitsOuter_of_fits bounded) distinct sound holds]

end CallBoundary.Host
