import CallBoundary.Proofs.Host.Custody
import CallBoundary.Sample.Types

/-!
# Errors on their way to the host

A native function closes with a value, a declared error, an internal fault or a panic.  The host
reads just that from the status it gets, whatever was in the status before (`closing_read`): a value
is there only if the function gave one, a declared error only if the function declared it, and no
message is ever taken for one.  The buffer that the status came with goes back, once.

Only what has a buffer can be sent.  A declared error that is too long is reported as an internal
fault, and a message that is too long as a panic without one.
-/

namespace CallBoundary.Host

/-! ### Closing a native function -/

/-- How a native function closes. -/
inductive Closing where
  | value (l : Lowered)
  | declared (e : Value)
  | internal (message : String)
  /-- With a panic's text, if it has one. -/
  | panic (text : Option String)

namespace Closing

/-- The end of a native function that closes so. -/
def body : Closing → Native.Body Lowered
  | value l => return l
  | declared e => do return .buffer (← Native.lowerResult (.error e))
  | internal m => throw (.internal m)
  | panic text => throw (.panic text)

/-- A native function: it works, and then closes as the work says. -/
def after (work : StateM Heap Closing) : Native.Body Lowered := do (← work).body

/-- What the host reads of how a native function closed, given the zero value of its category, what
it returned and what its status says. -/
structure Read (o : Closing) (zero returned : Lowered) (r : Except CallError Unit) : Prop where
  ok : r = .ok () ↔ ∃ l, o = .value l
  given : ∀ l, o = .value l → returned = l
  blank : (∀ l, o ≠ .value l) → returned = zero
  domain : ∀ e, r = .error (.domain e) ↔ o = .declared e ∧ e.Lowerable
  message : ∀ m, o = .internal m ∨ o = .panic (some m) → r = .error (.internal (messageError m))
  silent : o = .panic none → r = .error (.internal .panicWithoutMessage)
  unsent : ∀ e, o = .declared e → ¬ e.Lowerable →
    ∃ m, r = .error (.internal (messageError m))

section Body

variable {e : Value} {h h' : Heap}

theorem body_declared {b : Buffer} (hl : e.lower Native.allocator h = .ok b h') :
    (declared e).body h = .error (.domain b) h' := by
  have hreturn : Native.lowerReturn e h = .ok b h' := ofWire_of_ok hl
  have hresult : Native.lowerResult (.error e) h = .error (.domain b) h' := bind_of_ok hreturn _
  exact bind_of_error hresult _

theorem body_unlowered {w : WireError} (hl : e.lower Native.allocator h = .error w h') :
    (declared e).body h = .error (.internal w.message) h' := by
  have hreturn : Native.lowerReturn e h = .error (.internal w.message) h' := ofWire_of_error hl
  have hresult : Native.lowerResult (.error e) h = .error (.internal w.message) h' :=
    bind_of_error hreturn _
  exact bind_of_error hresult _

end Body

end Closing

/-! ### What the status says -/

/-- A call reports a result, and hands out what comes with it on a heap with these live blocks. -/
structure Reports (S : Schema) (errorType : WireType) (call : (Lowered × Status) × Heap)
    (live : List Nat) (returned : Lowered) (r : Except CallError Unit) : Prop where
  returned : call.1.1 = returned
  reads : reading S errorType call.1.2 = r
  tidy : call.1.2.Tidy
  live : call.2.live = call.1.2.payload.address?.toList ++ live

section Reports

variable {S : Schema} {errorType : WireType} {zero : Lowered} {body : Native.Body Lowered}
  {s : Status} {h h' : Heap}

theorem run_value {l : Lowered} (hb : body h = .ok l h') (hs : s.payload.isUnallocated = true) :
    Reports S errorType (Native.run zero body s h) h'.live l (.ok ()) := by
  have haddress : s.setSuccess.payload.address? = none := Buffer.address?_of_isUnallocated hs
  rw [Native.run_eq_of_ok hb]
  refine ⟨rfl, rfl, .success rfl haddress, ?_⟩
  show h'.live = s.setSuccess.payload.address?.toList ++ h'.live
  rw [haddress]
  rfl

theorem run_declared {b : Buffer} {e : Value} {live : List Nat}
    (hb : body h = .error (.domain b) h') (out : Heap.HandedOut live b h')
    (data : b.address? ≠ none) (holds : S.contents errorType b = .ok e) :
    Reports S errorType (Native.run zero body s h) live zero (.error (.domain e)) := by
  have hrun : Native.run zero body s h = ((zero, .ofError b), h') := by
    unfold Native.run
    rw [stateM_bind, attempt_error hb]
    rfl
  rw [hrun]
  refine ⟨rfl, ?_, .error out.layout data, out.live_eq⟩
  show Except.error (declaredError S errorType b) = _
  rw [declaredError, holds]

theorem run_broken {f : Native.Fault} {text : Option String} (hb : body h = .error f h')
    (hf : f = .panic text ∨ ∃ m, f = .internal m ∧ text = some m) :
    Reports S errorType (Native.run zero body s h) h'.live zero
      (.error (.internal (text.elim .panicWithoutMessage messageError))) := by
  have hout := Native.messageBuffer_handedOut h' text
  have hread : panicError (.ofBuffer (Native.messageBuffer text h').1) =
      text.elim .panicWithoutMessage messageError := by
    cases text with
    | none => rfl
    | some m => exact panicError_messageBuffer m h'
  rw [Native.run_eq_of_broken hb hf, ← hread]
  exact ⟨rfl, rfl, .panic hout.layout, hout.live_eq⟩

end Reports

/-- **What a closing function reports**, whatever the status was before. -/
theorem Closing.reports (S : Schema) (errorType : WireType) (o : Closing) (zero : Lowered)
    {s : Status} (hs : s.payload.isUnallocated = true) (h : Heap)
    (typed : ∀ e, o = .declared e → e.hasType S errorType = true ∧ e.keyed = true) :
    ∃ returned r, Reports S errorType (Native.run zero o.body s h) h.live returned r ∧
      o.Read zero returned r := by
  cases o with
  | value l =>
    refine ⟨l, .ok (), run_value rfl hs, ?_⟩
    constructor <;> simp
  | declared e =>
    obtain ⟨htype, hkeyed⟩ := typed e rfl
    by_cases hl : e.Lowerable
    · obtain ⟨b, h', hb, out, data, holds⟩ := Native.lower_handedOut h hl
      have hcontents := S.contents_whole htype hl.1 hkeyed out.layout holds
      refine ⟨zero, _, run_declared (body_declared hb) out data hcontents, ?_⟩
      constructor <;> simp [hl]
    · -- there is no buffer for the error, and it is reported why
      obtain ⟨w, h', hb, hlive⟩ := Native.lower_unlowerable h hl
      refine ⟨zero, _, hlive ▸ run_broken (body_unlowered hb) (.inr ⟨_, rfl, rfl⟩), ?_⟩
      constructor <;> simp [hl]
  | internal m =>
    refine ⟨zero, _, run_broken rfl (.inr ⟨m, rfl, rfl⟩), ?_⟩
    constructor <;> simp
  | panic text =>
    refine ⟨zero, _, run_broken rfl (.inl rfl), ?_⟩
    cases text with
    | none => constructor <;> simp
    | some m => constructor <;> simp

/-! ### Reading it -/

/-- The host reads what was reported, and gives back what came with it. -/
theorem Reports.checked {S : Schema} {errorType : WireType} {call : (Lowered × Status) × Heap}
    {live : List Nat} {returned : Lowered} {r : Except CallError Unit}
    (h : Reports S errorType call live returned r) :
    let read := checkStatus S nativeEntries.allocator errorType call.1.2 call.2
    read.1 = r ∧ call.2.TookBack call.1.2.payload read.2 ∧ read.2.live = live := by
  have took := checkStatus_tookBack S errorType h.tidy call.2
  refine ⟨?_, took, took.live_eq h.live⟩
  rw [checkStatus_eq S nativeEntries_accepts, h.reads]

/-- **The host reads how a native function closed**, and the buffer of the status goes back once,
whatever the function did before it closed and whatever was in the status.  What takes more than
`maxLength` bytes, 2 ^ 31 - 1, has no buffer to come in: a declared error that is longer is read as an
internal error, and a message that is longer as none. -/
theorem closing_read (S : Schema) (errorType : WireType) (c : Category)
    (work : StateM Heap Closing) (s : Status) (hs : s.payload.isUnallocated = true) (h : Heap)
    (typed : ∀ e, (work h).1 = .declared e → e.hasType S errorType = true ∧ e.keyed = true) :
    let call := Native.run c.zero (Closing.after work) s h
    let read := checkStatus S nativeEntries.allocator errorType call.1.2 call.2
    (work h).1.Read c.zero call.1.1 read.1 ∧
      call.2.live = call.1.2.payload.address?.toList ++ (work h).2.live ∧
      call.2.TookBack call.1.2.payload read.2 ∧ read.2.live = (work h).2.live := by
  intro call read
  have hcall : call = Native.run c.zero (work h).1.body s (work h).2 := rfl
  obtain ⟨returned, r, hreports, hread⟩ := (work h).1.reports S errorType c.zero hs (work h).2 typed
  rw [← hcall] at hreports
  obtain ⟨hr, took, hlive⟩ := hreports.checked
  refine ⟨?_, hreports.live, took, hlive⟩
  rw [hreports.returned, hr]
  exact hread

/-- A rejection arrives. -/
theorem closing_read_rejection :
    let e := Sample.SampleError.toValue (.rejected "no")
    let call := Native.run Category.buffer.zero (Closing.after (pure (.declared e)))
      ⟨7, .unallocated⟩ {}
    let read := checkStatus Sample.schema nativeEntries.allocator Sample.SampleError.type
      call.1.2 call.2
    read.1 = .error (.domain e) ∧ read.2.live = [] := by
  intro e call read
  have hfits : e.fitsOuter = true ∧ e.outerLength ≤ maxLength := by decide
  have typed : ∀ e', Closing.declared e = .declared e' →
      e'.hasType Sample.schema Sample.SampleError.type = true ∧ e'.keyed = true := by
    intro e' he
    cases he
    decide
  obtain ⟨hread, -, -, hlive⟩ := closing_read Sample.schema Sample.SampleError.type .buffer
    (pure (.declared e)) ⟨7, .unallocated⟩ rfl {} typed
  subst read call
  exact ⟨(hread.domain e).2 ⟨rfl, hfits⟩, hlive⟩

end CallBoundary.Host
