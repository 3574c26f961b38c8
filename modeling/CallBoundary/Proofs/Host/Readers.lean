import CallBoundary.Proofs.Host.Relay

/-!
# Readers of one status

The status of a call is read on three occasions: by the host after a call that declares errors, by
the host after a call that declares none, and by the native side after a callback.  They have words
of their own for a fault, but on what a status means they agree (`readers_agree`): it is fine, it
stands for a declared error, or it is a fault.  It stands for a declared error just when the code
says so and the buffer holds the whole of one.
-/

namespace CallBoundary

/-- The contents of a buffer stand for a value just when its layout is sound and they are the whole
of the value. -/
theorem Schema.contents_ok {S : Schema} {t : WireType} {b : Buffer} {v : Value} :
    S.contents t b = .ok v ↔ b.check = .ok () ∧ S.Whole t b.contents v := by
  rw [← readOuter_ok, contents]
  cases b.check with
  | error e => simp
  | ok u => simp

/-! ### What a status means -/

/-- What a status means, whoever reads it. -/
inductive Meaning where
  | fine
  | declared (e : Value)
  | fault
deriving DecidableEq

/-- What a status means to who expects errors of a type. -/
def Status.meaning (S : Schema) (errorType : WireType) (s : Status) : Meaning :=
  match s.kind? with
  | some .success => .fine
  | some .error => match S.contents errorType s.payload with
    | .ok e => .declared e
    | .error _ => .fault
  | some .panic | none => .fault

/-- A status stands for a declared error just when its code says so and its buffer holds the whole
of one. -/
theorem Status.meaning_declared {S : Schema} {errorType : WireType} {s : Status} {e : Value} :
    s.meaning S errorType = .declared e ↔ s.kind? = some .error ∧ s.payload.check = .ok () ∧
      S.Whole errorType s.payload.contents e := by
  rw [← Schema.contents_ok, meaning]
  rcases s.kind? with _ | _ | _ | _
  · simp
  · simp
  · cases S.contents errorType s.payload with
    | ok e' => simp
    | error w => simp
  · simp

/-- A reader reports what a status means: that it is fine, the error that was declared, or a fault.
-/
structure Meaning.Reported {ε φ : Type} (declares : Value → ε) (faults : φ → ε) (m : Meaning)
    (r : Except ε Unit) : Prop where
  fine : r = .ok () ↔ m = .fine
  declared : ∀ e, r = .error (declares e) ↔ m = .declared e
  fault : (∃ f, r = .error (faults f)) ↔ m = .fault

/-! ### The three readers -/

namespace Host

/-- What the host says about a status is what it means. -/
theorem reading_reported (S : Schema) (errorType : WireType) (s : Status) :
    (s.meaning S errorType).Reported .domain .internal (reading S errorType s) := by
  unfold Status.meaning reading
  rcases s.kind? with _ | _ | _ | _
  · constructor <;> simp
  · constructor <;> simp
  · unfold declaredError
    cases S.contents errorType s.payload with
    | ok e => constructor <;> simp [eq_comm]
    | error w => constructor <;> simp
  · constructor <;> simp

/-- Where no declared error is reported, who expects none reads the same. -/
theorem reading_of_undeclared (S : Schema) (A : Allocator σ) (errorType : WireType) {s : Status}
    (undeclared : s.kind? ≠ some .error) (st : σ) :
    reading S errorType s = (checkInternalStatus A s st).1.mapError .internal := by
  unfold reading
  rcases hk : s.kind? with _ | _ | _ | _
  · rw [checkInternalStatus_of_unknown A hk]
    rfl
  · rw [checkInternalStatus_of_success A hk]
    rfl
  · exact absurd hk undeclared
  · rw [checkInternalStatus_of_panic A hk]
    rfl

/-- To who expects no error a declared one is a fault. -/
theorem checkInternalStatus_error (A : Allocator σ) {s : Status} (said : s.kind? = some .error)
    (st : σ) : (checkInternalStatus A s st).1 = .error .undeclaredError := by
  rw [checkInternalStatus_of_error A said]
  rfl

end Host

namespace Native

/-- What the native side says about a status is what it means. -/
theorem checkForeign_reported (S : Schema) (errorType : WireType) (s : Status) (h : Heap) :
    (s.meaning S errorType).Reported .domain .unexpected (checkForeign S errorType s h).1 := by
  unfold Status.meaning
  rcases hk : s.kind? with _ | _ | _ | _
  · rw [checkForeign_unknown S errorType h hk]
    constructor <;> simp
  · rw [checkForeign_success S errorType h hk]
    constructor <;> simp
  · cases hc : S.contents errorType s.payload with
    | ok e =>
      rw [checkForeign_error S errorType h hk hc]
      constructor <;> simp [eq_comm]
    | error w =>
      rw [checkForeign_malformed S errorType h hk hc]
      constructor <;> simp
  · rw [checkForeign_panic_unexpected S errorType h hk]
    constructor <;> simp

end Native

/-! ### Agreement -/

namespace Host

/-- **The readers of a status agree on what it means.**  The host and the native side find it fine,
read a declared error, and find a fault, in the same cases; the error they read is the same, and it
is there just when the code says so and the buffer holds the whole of it.  Who expects no error
finds a status fine when the others do, and but for a declared error tells of the same fault as the
host. -/
theorem readers_agree (S : Schema) {A : Allocator σ} (errorType : WireType) (s : Status)
    (st st' : σ) (h : Heap)
    (taken : s.payload.check = .ok () → ∃ st₁, A.free s.payload st = .ok () st₁) :
    let host := (checkStatus S A errorType s st).1
    let native := (Native.checkForeign S errorType s h).1
    let plain := (checkInternalStatus A s st').1
    (host = .ok () ↔ native = .ok ()) ∧
    (∀ e, host = .error (.domain e) ↔ native = .error (.domain e)) ∧
    ((∃ i, host = .error (.internal i)) ↔ ∃ m, native = .error (.unexpected m)) ∧
    (∀ e, host = .error (.domain e) ↔ s.kind? = some .error ∧ s.payload.check = .ok () ∧
      S.Whole errorType s.payload.contents e) ∧
    (plain = .ok () ↔ host = .ok ()) ∧
    (s.kind? ≠ some .error → ∀ i, plain = .error i ↔ host = .error (.internal i)) := by
  intro host native plain
  have hhost : host = reading S errorType s := checkStatus_of_free S errorType taken
  have hread := reading_reported S errorType s
  have hnative := Native.checkForeign_reported S errorType s h
  rw [← hhost] at hread
  have hplain : s.kind? ≠ some .error → host = plain.mapError .internal := fun undeclared =>
    hhost.trans (reading_of_undeclared S A errorType undeclared st')
  refine ⟨hread.fine.trans hnative.fine.symm,
    fun e => (hread.declared e).trans (hnative.declared e).symm,
    hread.fault.trans hnative.fault.symm,
    fun e => (hread.declared e).trans Status.meaning_declared, ?_, ?_⟩
  · by_cases said : s.kind? = some .error
    · have hplain : plain = .error .undeclaredError := checkInternalStatus_error A said st'
      have hfault : host ≠ .ok () := by
        rw [hhost, reading, said]
        simp
      simp [hplain, hfault]
    · rw [hplain said]
      cases plain <;> simp [Except.mapError]
  · intro undeclared i
    rw [hplain undeclared]
    cases plain <;> simp [Except.mapError]

/-- A rejection is read on both sides, and to who expects none it is a fault. -/
theorem readers_agree_rejection :
    let e := Sample.SampleError.toValue (.rejected "no")
    let b := Buffer.ofBlock ⟨1, e.encodeOuter, 0⟩
    let h : Heap := { next := 2, live := [1] }
    b.check = .ok () ∧
    (checkStatus Sample.schema nativeEntries.allocator Sample.SampleError.type (.ofError b) h).1 =
      .error (.domain e) ∧
    (Native.checkForeign Sample.schema Sample.SampleError.type (.ofError b) h).1 =
      .error (.domain e) ∧
    (checkInternalStatus nativeEntries.allocator (.ofError b) h).1 ≠ .ok () := by
  intro e b h
  have layout : b.check = .ok () := rfl
  obtain ⟨-, same, -, declared, plain, -⟩ := readers_agree Sample.schema Sample.SampleError.type
    (.ofError b) h h h (nativeEntries_accepts b h)
  have whole := Schema.contents_ok.1 <| Sample.schema.contents_whole (t := Sample.SampleError.type)
    (v := e) (b := b) (by decide) (by decide) (by decide) layout (by decide)
  have hhost := (declared e).2 ⟨rfl, whole⟩
  refine ⟨layout, hhost, (same e).1 hhost, ?_⟩
  rw [Ne, plain, hhost]
  simp

end Host

end CallBoundary
