import CallBoundary.Host.Callback
import CallBoundary.Proofs.Host.Channel

/-!
# Errors on their way to the native side and back

A callback returns a value, fails with an error that it declares, or panics.  The native side that
called it is told just that, and gives the buffer of the status back (`answer_told`).  If the native
side passes the failure on to its own caller, the host reads it once more: a declared error is still
the same declared error, and a panic is an internal error with the same text (`answer_relayed`).
-/

namespace CallBoundary

/-- An allocator serves a request: there is a buffer with data, with a sound layout and room. -/
def Allocator.Serves (A : Allocator σ) (size : Nat) (s : σ) : Prop :=
  ∃ b s', A.alloc size s = .ok b s' ∧ b.check = .ok () ∧ b.address? ≠ none ∧ size ≤ b.length

theorem Allocator.Serves.onPart {A : Allocator σ} {n : Nat} {part : τ → σ} {t : τ}
    (served : A.Serves n (part t)) (update : τ → σ → τ) : (A.onPart part update).Serves n t := by
  obtain ⟨b, s', asked, layout, data, room⟩ := served
  refine ⟨b, update t s', ?_, layout, data, room⟩
  show CallBoundary.onPart part update (A.alloc n) t = _
  rw [CallBoundary.onPart, asked]

namespace Value

variable {A : Allocator σ} {v : Value} {s s' : σ} {b : Buffer}

theorem lower_served (served : A.Serves v.outerLength s) (bounded : v.fitsOuter = true) :
    ∃ b s', v.lower A s = .ok b s' ∧ b.check = .ok () ∧ b.address? ≠ none ∧
      b.contents = v.encodeOuter := by
  obtain ⟨b, s', asked, layout, data, room⟩ := served
  have hroom : v.outerLength ≤ b.contents.length := by rwa [Buffer.length_contents layout]
  have hbytes : v.encodeOuter.length ≤ b.contents.length := by rwa [length_encodeOuter]
  obtain ⟨hcheck, -, hcontents, haddress⟩ := Buffer.overwrite_sound layout hbytes
  exact ⟨_, s', lower_of_room asked layout bounded hroom, hcheck, haddress ▸ data, hcontents⟩

theorem lower_layout (h : v.lower A s = .ok b s') : b.check = .ok () := by
  obtain ⟨b₀, -, layout, -, room, rfl⟩ := lower_ok h
  rw [← length_encodeOuter] at room
  exact (Buffer.overwrite_sound layout room).1

end Value

namespace Host

/-! ### What a callback leaves -/

/-- What the status of a callback holds, from how the callback ended. -/
inductive CallbackOutcome.Leaves {α : Type} : CallbackOutcome α → Status → Prop
  | returned (a : α) {s : Status} (said : s.kind? = some .success)
    (nothing : s.payload.address? = none) : Leaves (.returned a) s
  | failed {e : Value} {b : Buffer} (bounded : e.fitsOuter = true) (layout : b.check = .ok ())
    (data : b.address? ≠ none) (holds : b.contents = e.encodeOuter) :
    Leaves (.failed e) (.ofError b)
  /-- The error could not be written, and the status says why. -/
  | unsent {e : Value} {b : Buffer} (unbounded : e.fitsOuter = false) (layout : b.check = .ok ()) :
    Leaves (.failed e) (.ofPanic b)
  | panicked {text : Option String} {b : Buffer} (layout : b.check = .ok ())
    (data : b.address? ≠ none) (holds : b.contents = encodeText (text.getD "callback panicked")) :
    Leaves (.panicked text) (.ofPanic b)

/-- The size of the buffer that a callback's outcome needs, if it needs one. -/
def CallbackOutcome.request? {α : Type} : CallbackOutcome α → Option Nat
  | returned _ => none
  | failed e => some e.outerLength
  | panicked text => some (encodeText (text.getD "callback panicked")).length

section Answer

variable {α : Type} {A : Allocator σ} {zero : α} {s : Status} {st st' : σ}

theorem panicStatus_of_ok {m : String} {b : Buffer} (hl : (Value.text m).lower A st = .ok b st') :
    panicStatus A m st = (.ofPanic b, st') := by
  simp only [panicStatus, stateM_bind, attempt_ok hl]
  rfl

theorem panicStatus_of_error {m : String} {w : WireError}
    (hl : (Value.text m).lower A st = .error w st') :
    panicStatus A m st = (.ofPanic .unallocated, st') := by
  simp only [panicStatus, stateM_bind, attempt_error hl]
  rfl

/-- The status of a panic has a buffer that can be looked at, whatever the allocator. -/
theorem panicStatus_layout (A : Allocator σ) (m : String) (st : σ) :
    ∃ b, (panicStatus A m st).1 = .ofPanic b ∧ b.check = .ok () := by
  cases hl : (Value.text m).lower A st with
  | ok b st' =>
    rw [panicStatus_of_ok hl]
    exact ⟨b, rfl, Value.lower_layout hl⟩
  | error e st' =>
    rw [panicStatus_of_error hl]
    exact ⟨.unallocated, rfl, rfl⟩

theorem answer_failed {e : Value} {b : Buffer} (hl : e.lower A st = .ok b st') :
    answer A zero (.failed e) s st = ((zero, .ofError b), st') := by
  simp only [answer, stateM_bind, attempt_ok hl]
  rfl

theorem answer_broken {e : Value} {w : WireError} (hl : e.lower A st = .error w st') (zero : α)
    (s : Status) : answer A zero (.failed e) s st =
      let out := panicStatus A s!"Failed to lower callback error: {w.message}" st'
      ((zero, out.1), out.2) := by
  simp only [answer, stateM_bind, attempt_error hl]
  rfl

theorem answer_unsent {e : Value} {w : WireError} (hl : e.lower A st = .error w st') (zero : α)
    (s : Status) : ∃ b, (answer A zero (.failed e) s st).1.2 = .ofPanic b ∧ b.check = .ok () := by
  obtain ⟨b, hb, layout⟩ :=
    panicStatus_layout A s!"Failed to lower callback error: {w.message}" st'
  rw [answer_broken hl]
  exact ⟨b, hb, layout⟩

/-- **The status of a callback says how it ended**, if the allocator has the buffer for it. -/
theorem answer_leaves (o : CallbackOutcome α) (hs : s.payload.isUnallocated = true)
    (served : ∀ n, o.request? = some n → A.Serves n st) :
    o.Leaves (answer A zero o s st).1.2 := by
  cases o with
  | returned a => exact .returned a rfl (Buffer.address?_of_isUnallocated hs)
  | failed e =>
    cases hfit : e.fitsOuter with
    | true =>
      obtain ⟨b, st', hl, layout, data, holds⟩ := Value.lower_served (served _ rfl) hfit
      rw [answer_failed hl]
      exact .failed hfit layout data holds
    | false =>
      -- who had lowered the error would have written it
      obtain ⟨w, st', hl⟩ : ∃ w st', e.lower A st = .error w st' := by
        cases hl : e.lower A st with
        | error w st' => exact ⟨w, st', rfl⟩
        | ok b st' =>
          obtain ⟨b₀, -, -, hfit', -⟩ := Value.lower_ok hl
          rw [hfit] at hfit'
          cases hfit'
      obtain ⟨b, hb, layout⟩ := answer_unsent hl zero s
      rw [hb]
      exact .unsent hfit layout
  | panicked text =>
    obtain ⟨b, st', hl, layout, data, holds⟩ :=
      Value.lower_served (v := .text (text.getD "callback panicked")) (served _ rfl) rfl
    have hstatus : (answer A zero (.panicked text) s st).1.2 = .ofPanic b := by
      show (panicStatus A (text.getD "callback panicked") st).1 = _
      rw [panicStatus_of_ok hl]
    rw [hstatus]
    exact .panicked layout data holds

/-- Answering touches what the allocator touches. -/
theorem answer_keeps {A : Allocator σ} {f : σ → τ} (ha : ∀ n, Keeps f (attempt (A.alloc n)))
    (hf : ∀ b, Keeps f (attempt (A.free b))) (zero : α) (o : CallbackOutcome α) (s : Status) :
    Keeps f (answer A zero o s) := by
  have hpanic : ∀ m, Keeps f (panicStatus A m) := by
    intro m
    refine (Value.lower_keeps ha hf (.text m)).bind ?_
    intro r
    cases r with
    | ok b => exact keeps_pure _
    | error w => exact keeps_pure _
  cases o with
  | returned a => exact keeps_pure _
  | failed e =>
    refine (Value.lower_keeps ha hf e).bind ?_
    intro r
    cases r with
    | ok b => exact keeps_pure _
    | error w => exact (hpanic _).bind fun _ => keeps_pure _
  | panicked text => exact (hpanic _).bind fun _ => keeps_pure _

end Answer

theorem CallbackOutcome.Leaves.tidy {α : Type} {o : CallbackOutcome α} {s : Status}
    (h : o.Leaves s) : s.Tidy := by
  cases h with
  | returned a said nothing => exact .success said nothing
  | failed bounded layout data holds => exact .error layout data
  | unsent unbounded layout => exact .panic layout
  | panicked layout data holds => exact .panic layout

end Host

/-! ### What the native side is told -/

namespace Native

section Check

variable (S : Schema) (errorType : WireType) (h : Heap)

theorem checkForeign_success {s : Status} (said : s.kind? = some .success) :
    (checkForeign S errorType s h).1 = .ok () := by
  unfold checkForeign
  rw [said]
  rfl

theorem checkForeign_error {s : Status} {e : Value} (said : s.kind? = some .error)
    (holds : S.contents errorType s.payload = .ok e) :
    (checkForeign S errorType s h).1 = .error (.domain e) := by
  have hlift : (attempt (S.lift allocator errorType s.payload) h).1 = .ok e :=
    (S.lift_outcome allocator_accepts errorType s.payload h).trans holds
  unfold checkForeign
  simp only [said, stateM_bind, hlift]
  rfl

theorem checkForeign_malformed {s : Status} {w : WireError} (said : s.kind? = some .error)
    (broken : S.contents errorType s.payload = .error w) :
    (checkForeign S errorType s h).1 =
      .error (.unexpected s!"Malformed callback error payload: {w.message}") := by
  have hlift : (attempt (S.lift allocator errorType s.payload) h).1 = .error w :=
    (S.lift_outcome allocator_accepts errorType s.payload h).trans broken
  unfold checkForeign
  simp only [said, stateM_bind, hlift]
  rfl

theorem checkForeign_panic {b : Buffer} {m : String} (data : b.address? ≠ none)
    (holds : S.contents .text b = .ok (.text m)) :
    (checkForeign S errorType (.ofPanic b) h).1 = .error (.unexpected m) := by
  have hlift : (attempt (S.lift allocator .text b) h).1 = .ok (.text m) :=
    (S.lift_outcome allocator_accepts .text b h).trans holds
  have hmessage : (foreignPanic S b h).1 = m := by
    unfold foreignPanic
    rw [if_neg (by rw [Buffer.not_isUnallocated data]; exact Bool.false_ne_true), stateM_bind, hlift]
    rfl
  show Except.error (ForeignFault.unexpected (foreignPanic S b h).1) = _
  rw [hmessage]

/-- A panic is never taken for an error that was declared. -/
theorem checkForeign_panic_unexpected {s : Status} (said : s.kind? = some .panic) :
    (checkForeign S errorType s h).1 = .error (.unexpected (foreignPanic S s.payload h).1) := by
  unfold checkForeign
  rw [said]
  rfl

theorem checkForeign_unknown {s : Status} (unknown : s.kind? = none) :
    (checkForeign S errorType s h).1 =
      .error (.unexpected s!"Unknown callback status code {s.code.toInt}") := by
  unfold checkForeign
  rw [unknown]
  rfl

end Check

end Native

namespace Host

/-- What the native side is told of how a callback ended. -/
structure CallbackOutcome.Told {α : Type} (o : CallbackOutcome α)
    (r : Except Native.ForeignFault Unit) : Prop where
  ok : r = .ok () ↔ ∃ a, o = .returned a
  domain : ∀ e, r = .error (.domain e) ↔ o = .failed e ∧ e.fitsOuter = true
  panicked : ∀ text, o = .panicked text →
    r = .error (.unexpected (text.getD "callback panicked"))
  unsent : ∀ e, o = .failed e → e.fitsOuter = false → ∃ m, r = .error (.unexpected m)

/-- **The native side is told how a callback ended.** -/
theorem CallbackOutcome.Leaves.told {α : Type} {o : CallbackOutcome α} {s : Status}
    (h : o.Leaves s) (S : Schema) (errorType : WireType)
    (typed : ∀ e, o = .failed e → e.hasType S errorType = true ∧ e.keyed = true) (heap : Heap) :
    o.Told (Native.checkForeign S errorType s heap).1 := by
  cases h with
  | returned a said nothing =>
    rw [Native.checkForeign_success S errorType heap said]
    constructor <;> simp
  | failed bounded layout data holds =>
    obtain ⟨htype, hkeyed⟩ := typed _ rfl
    have hcontents := S.contents_whole htype bounded hkeyed layout holds
    rw [Native.checkForeign_error S errorType heap rfl hcontents]
    constructor <;> simp [bounded]
  | @unsent e b unbounded layout =>
    rw [Native.checkForeign_panic_unexpected S errorType heap rfl]
    constructor <;> simp [unbounded]
  | @panicked text b layout data holds =>
    have hcontents : S.contents .text b = .ok (.text (text.getD "callback panicked")) :=
      S.contents_whole (v := .text _) rfl rfl rfl layout holds
    rw [Native.checkForeign_panic S errorType heap data hcontents]
    constructor <;> simp

/-! ### What the host is told in turn -/

/-- How a native function closes that passes the failure of a callback on. -/
def Closing.ofFault : Native.ForeignFault → Closing
  | .domain e => .declared e
  | .unexpected m => .internal m

theorem raise_eq_body (f : Native.ForeignFault) : f.raise = (Closing.ofFault f).body := by
  funext h
  cases f with
  | unexpected m => rfl
  | domain e =>
    cases hl : e.lower Native.allocator h with
    | ok b h' =>
      have hreturn : Native.lowerReturn e h = .ok b h' := ofWire_of_ok hl
      exact (bind_of_ok hreturn _).trans (Closing.body_declared hl).symm
    | error w h' =>
      have hreturn : Native.lowerReturn e h = .error (.internal w.message) h' := ofWire_of_error hl
      exact (bind_of_error hreturn _).trans (Closing.body_unlowered hl).symm

/-- What the host reads of how a callback ended, once its failure was passed on. -/
structure CallbackOutcome.Relayed {α : Type} (o : CallbackOutcome α) (r : Except CallError Unit) :
    Prop where
  failed : r ≠ .ok ()
  domain : ∀ e, r = .error (.domain e) ↔ o = .failed e ∧ e.Lowerable
  panicked : ∀ text, o = .panicked text →
    r = .error (.internal (messageError (text.getD "callback panicked")))
  unsent : ∀ e, o = .failed e → ¬ e.Lowerable → ∃ m, r = .error (.internal (messageError m))

/-- What was told is what is read once it is passed on. -/
theorem CallbackOutcome.Told.relayed {α : Type} {o : CallbackOutcome α} {f : Native.ForeignFault}
    {zero returned : Lowered} {r : Except CallError Unit} (told : o.Told (.error f))
    (read : (Closing.ofFault f).Read zero returned r) : o.Relayed r := by
  constructor
  · intro hr
    obtain ⟨l, hl⟩ := read.ok.1 hr
    cases f <;> cases hl
  · intro e
    rw [read.domain e]
    constructor
    · rintro ⟨hf, hl⟩
      cases f with
      | domain e' =>
        cases hf
        exact ⟨((told.domain e).1 rfl).1, hl⟩
      | unexpected m => cases hf
    · rintro ⟨ho, hl⟩
      cases (told.domain e).2 ⟨ho, hl.1⟩
      exact ⟨rfl, hl⟩
  · intro text ho
    have hf := told.panicked text ho
    cases hf
    exact read.message _ (.inl rfl)
  · intro e ho hl
    cases hfit : e.fitsOuter with
    | true =>
      cases (told.domain e).2 ⟨ho, hfit⟩
      exact read.unsent e rfl hl
    | false =>
      obtain ⟨m, hm⟩ := told.unsent e ho hfit
      cases hm
      exact ⟨m, read.message m (.inl rfl)⟩

/-- The buffer entry points of the native side serve every request that is not too long. -/
theorem nativeEntries_serves {n : Nat} (short : n ≤ maxLength) (h : Heap) :
    nativeEntries.allocator.Serves n h := by
  have halloc := (nativeEntries_alloc short h).trans (Native.alloc_eq short h)
  have hroom : n ≤ (Buffer.ofBlock ⟨h.next, [], n⟩).length := Nat.le_add_left ..
  exact ⟨_, _, halloc, if_pos (Nat.le_refl _), nofun, hroom⟩

/-- **How a callback ended is told to the native side, and by it to the host.**  Each of them gives
the buffer of the status that it reads back once.  No length or count goes beyond `maxLength`,
2 ^ 31 - 1: an error that needs a longer one inside is told as an unexpected failure, and one that
needs a longer buffer is told, but passed on as an internal error. -/
theorem answer_relayed (S : Schema) (errorType : WireType) {α : Type} (A : Allocator Heap)
    (o : CallbackOutcome α) (zero : α) (s : Status) (hs : s.payload.isUnallocated = true) (h : Heap)
    (typed : ∀ e, o = .failed e → e.hasType S errorType = true ∧ e.keyed = true)
    (served : ∀ n, o.request? = some n → A.Serves n h) :
    let call := answer A zero o s h
    let told := Native.checkForeign S errorType call.1.2 call.2
    o.Told told.1 ∧ call.2.TookBack call.1.2.payload told.2 ∧
      ∀ f, told.1 = .error f → ∀ (c : Category) (s' : Status), s'.payload.isUnallocated = true →
        let relay := Native.run c.zero f.raise s' told.2
        let read := checkStatus S nativeEntries.allocator errorType relay.1.2 relay.2
        o.Relayed read.1 ∧ relay.2.TookBack relay.1.2.payload read.2 ∧
          read.2.live = told.2.live := by
  intro call told
  have hleaves : o.Leaves call.1.2 := answer_leaves o hs served
  have htold : o.Told told.1 := hleaves.told S errorType typed call.2
  refine ⟨htold, Native.checkForeign_tookBack S errorType hleaves.tidy call.2, ?_⟩
  intro f hf c s' hs' relay read
  rw [hf] at htold
  have htyped : ∀ e, Closing.ofFault f = .declared e →
      e.hasType S errorType = true ∧ e.keyed = true := by
    intro e he
    cases f with
    | domain e' =>
      cases he
      exact typed e ((htold.domain e).1 rfl).1
    | unexpected m => cases he
  obtain ⟨returned, r, hreports, hread⟩ :=
    (Closing.ofFault f).reports S errorType c.zero hs' told.2 htyped
  rw [← raise_eq_body f] at hreports
  obtain ⟨hr, took, hlive⟩ := hreports.checked
  exact ⟨hr ▸ htold.relayed hread, took, hlive⟩

/-- A rejection arrives twice. -/
theorem answer_relayed_rejection :
    let e := Sample.LogRejection.toValue ⟨"full"⟩
    let call := answer nativeEntries.allocator () (.failed e) {} {}
    let told := Native.checkForeign Sample.schema Sample.LogRejection.type call.1.2 call.2
    let relay := Native.run (Category.scalar .u32).zero (Native.ForeignFault.domain e).raise {}
      told.2
    let read := checkStatus Sample.schema nativeEntries.allocator Sample.LogRejection.type
      relay.1.2 relay.2
    told.1 = .error (.domain e) ∧ read.1 = .error (.domain e) := by
  intro e call told relay read
  have hfits : e.fitsOuter = true ∧ e.outerLength ≤ maxLength := by decide
  have typed : ∀ e', (CallbackOutcome.failed e : CallbackOutcome Unit) = .failed e' →
      e'.hasType Sample.schema Sample.LogRejection.type = true ∧ e'.keyed = true := by
    intro e' he
    cases he
    decide
  have served : ∀ n, (CallbackOutcome.failed e : CallbackOutcome Unit).request? = some n →
      nativeEntries.allocator.Serves n {} := by
    intro n hn
    cases hn
    exact nativeEntries_serves hfits.2 {}
  obtain ⟨htold, -, hrelay⟩ := answer_relayed Sample.schema Sample.LogRejection.type
    nativeEntries.allocator (.failed e) () {} rfl {} typed served
  have hdomain : told.1 = .error (.domain e) := (htold.domain e).2 ⟨rfl, hfits.1⟩
  obtain ⟨hread, -⟩ := hrelay _ hdomain (.scalar .u32) {} rfl
  exact ⟨hdomain, (hread.domain e).2 ⟨rfl, hfits⟩⟩

end Host

end CallBoundary
