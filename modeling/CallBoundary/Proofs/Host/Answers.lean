import CallBoundary.Host.Invoke
import CallBoundary.Proofs.Host.Channel

/-!
# What a call answers

A call goes back and forth once.  The host lowers the arguments, each into a block of its own
(`lowerArguments_ok`); the native side takes them out again (`liftArgument_ok`) and closes; the host
reads the status and lifts what was returned.  So what the caller gets is told by how the native
side closed, `Answers`, and nothing that was handed out for the call is left (`Answers.invoked`).

Only what has a buffer arrives.  What is too long to be returned is reported as an internal error
(`Arrives`), and then nothing is left either.  An argument that is too long ends the call before it is
made, and leaves what was lowered until then (`stranded`).
-/

namespace CallBoundary

open Host

/-! ### Values in buffers -/

/-- A value is one of a type, and its maps have each key once. -/
structure Schema.Member (S : Schema) (t : WireType) (v : Value) : Prop where
  typed : v.hasType S t = true
  keyed : v.keyed = true

/-- The next block of a heap was handed out, and it holds the whole of a value. -/
structure Heap.Placed (h : Heap) (v : Value) (b : Buffer) (h' : Heap) : Prop where
  bounded : v.fitsOuter = true
  layout : b.check = .ok ()
  address : b.address? = some h.next
  holds : b.contents = v.encodeOuter
  next : h'.next = h.next + 1
  live : h'.live = h.next :: h.live

namespace Heap.Placed

variable {S : Schema} {t : WireType} {v : Value} {b : Buffer} {h h' : Heap}

theorem data (p : h.Placed v b h') : b.address? ≠ none := p.address ▸ nofun

theorem live_eq (p : h.Placed v b h') : h'.live = b.address?.toList ++ h.live := by
  rw [p.address]
  exact p.live

theorem contents (p : h.Placed v b h') (m : S.Member t v) : S.contents t b = .ok v :=
  S.contents_whole m.typed p.bounded m.keyed p.layout p.holds

end Heap.Placed

/-! ### Lowering arguments -/

section Lower

variable {v : Value}

/-- The host lowers what is not too long for a buffer just as the native side does. -/
theorem Host.lower_nativeEntries (short : v.outerLength ≤ maxLength) (h : Heap) :
    v.lower nativeEntries.allocator h = v.lower Native.allocator h := by
  have halloc := Native.alloc_eq short h
  have hsound : (Buffer.ofBlock ⟨h.next, [], v.outerLength⟩).check = .ok () :=
    if_pos (Nat.le_refl _)
  rw [Value.lower_eq, Value.lower_eq, bind_of_ok ((nativeEntries_alloc short h).trans halloc),
    bind_of_ok halloc, bind_of_ok (ofExcept_of_ok hsound _), bind_of_ok (ofExcept_of_ok hsound _)]
  cases hw : v.writeOuter (.fresh (Buffer.ofBlock ⟨h.next, [], v.outerLength⟩).contents) with
  | ok u r => rw [Value.filled_of_ok hw, Value.filled_of_ok hw]
  | error e r =>
    have hf := Native.free_eq hsound ((h.noteRequest v.outerLength).place [] v.outerLength).2
    rw [Value.filled_of_error hw, Value.filled_of_error hw, bind_of_ok (nativeEntries_free hf),
      bind_of_ok hf]

theorem Host.lower_placed (room : v.Lowerable) (h : Heap) :
    ∃ b h', v.lower nativeEntries.allocator h = .ok b h' ∧ h.Placed v b h' := by
  obtain ⟨b, hl, layout, -, holds, address⟩ := Native.lower_eq room.1 room.2 h
  exact ⟨b, _, (lower_nativeEntries room.2 h).trans hl,
    ⟨room.1, layout, address, holds, rfl, rfl⟩⟩

/-- The block of the message that a size is too long, if it is and there is a buffer for that. -/
def told (next size : Nat) : List Nat :=
  if maxLength < size ∧ (Value.text (Native.tooLong size).message).Lowerable then [next] else []

/-- What there is no buffer for is refused.  All that stays live is the message that it is too
long. -/
theorem Host.lower_unlowerable (hv : ¬ v.Lowerable) (h : Heap) :
    ∃ e h', v.lower nativeEntries.allocator h = .error e h' ∧
      h'.live = told h.next v.outerLength ++ h.live := by
  unfold told
  by_cases short : v.outerLength ≤ maxLength
  · rw [lower_nativeEntries short, if_neg fun long => Nat.not_lt.2 short long.1]
    exact Native.lower_unlowerable h hv
  · have long : maxLength < v.outerLength := Nat.not_le.1 short
    obtain ⟨e, hrefused⟩ := nativeEntries_refuses long h
    refine ⟨e, _, bind_of_error hrefused _, ?_⟩
    rw [Native.messageBuffer_live]
    simp only [long, true_and]
    rfl

/-- What needs no buffer is short enough for one. -/
theorem Value.lowerable_of_bare {l : Lowered} (hv : v.bare = some l) : v.Lowerable := by
  cases v with
  | unit => decide
  | bool b => exact ⟨rfl, Nat.le_of_ble_eq_true rfl⟩
  | scalar s =>
    refine ⟨rfl, ?_⟩
    have hwidth : s.type.width ≤ 8 := by cases s.type <;> decide
    exact Nat.le_trans hwidth (by decide)
  | _ => cases hv

/-- What needs no buffer crosses as it is. -/
theorem Host.lowerWhole_bare {l : Lowered} (hv : v.bare = some l) (h : Heap) :
    v.lowerWhole nativeEntries.allocator h = .ok l h := by
  unfold Value.lowerWhole
  rw [hv]
  rfl

theorem Host.lowerWhole_placed (hv : v.bare = none) (room : v.Lowerable) (h : Heap) :
    ∃ b h', v.lowerWhole nativeEntries.allocator h = .ok (.buffer b) h' ∧ h.Placed v b h' := by
  obtain ⟨b, h', hb, p⟩ := lower_placed room h
  refine ⟨b, h', ?_, p⟩
  unfold Value.lowerWhole
  rw [hv]
  exact bind_of_ok hb _

theorem Host.lowerWhole_refused (room : ¬ v.Lowerable) (h : Heap) :
    ∃ e h', v.lowerWhole nativeEntries.allocator h = .error e h' ∧
      h'.live = told h.next v.outerLength ++ h.live := by
  obtain ⟨e, h', hl, hlive⟩ := lower_unlowerable room h
  have hv : v.bare = none :=
    Option.eq_none_iff_forall_ne_some.2 fun l hl => room (Value.lowerable_of_bare hl)
  refine ⟨e, h', ?_, hlive⟩
  unfold Value.lowerWhole
  rw [hv]
  exact bind_of_error hl _

end Lower

/-- Some values were lowered in order, each that needs a buffer into the next block. -/
inductive Heap.Lowers : Heap → List Value → List Lowered → Heap → Prop
  | nil {h : Heap} : Lowers h [] [] h
  | bare {v : Value} {l : Lowered} {vs : List Value} {ls : List Lowered} {h h' : Heap}
    (hv : v.bare = some l) (rest : Lowers h vs ls h') : Lowers h (v :: vs) (l :: ls) h'
  | placed {v : Value} {b : Buffer} {vs : List Value} {ls : List Lowered} {h h₁ h' : Heap}
    (hv : v.bare = none) (p : h.Placed v b h₁) (rest : Lowers h₁ vs ls h') :
    Lowers h (v :: vs) (.buffer b :: ls) h'

namespace Heap.Lowers

variable {v : Value} {vs : List Value} {ls : List Lowered} {h h' : Heap}

theorem of_placed (lowers : h.Lowers (v :: vs) ls h') (hv : v.bare = none) :
    ∃ b ms h₁, ls = .buffer b :: ms ∧ h.Placed v b h₁ ∧ h₁.Lowers vs ms h' := by
  cases lowers with
  | bare hv' =>
    rw [hv] at hv'
    cases hv'
  | placed _ p rest => exact ⟨_, _, _, rfl, p, rest⟩

theorem of_bare {l : Lowered} (lowers : h.Lowers (v :: vs) ls h') (hv : v.bare = some l) :
    ∃ ms, ls = l :: ms ∧ h.Lowers vs ms h' := by
  cases lowers with
  | bare hv' rest =>
    rw [hv] at hv'
    cases hv'
    exact ⟨_, rfl, rest⟩
  | placed hv' =>
    rw [hv] at hv'
    cases hv'

theorem of_single (lowers : h.Lowers [v] ls h') (hv : v.bare = none) :
    ∃ b, ls = [.buffer b] ∧ h.Placed v b h' := by
  obtain ⟨b, ms, h₁, rfl, p, rest⟩ := lowers.of_placed hv
  cases rest
  exact ⟨b, rfl, p⟩

end Heap.Lowers

section LowerArguments

variable {vs : List Value}

/-- **Arguments are lowered** if there is a buffer for each of them. -/
theorem lowerArguments_ok (room : ∀ v ∈ vs, v.Lowerable) (h : Heap) :
    ∃ ls h', lowerArguments nativeEntries.allocator vs h = .ok ls h' ∧ h.Lowers vs ls h' := by
  induction vs generalizing h with
  | nil => exact ⟨[], h, rfl, .nil⟩
  | cons v vs ih =>
    obtain ⟨hroom, hrest⟩ := List.forall_mem_cons.1 room
    cases hv : v.bare with
    | some l =>
      obtain ⟨ls, h', hls, lowers⟩ := ih hrest h
      refine ⟨l :: ls, h', ?_, .bare hv lowers⟩
      exact (bind_of_ok (lowerWhole_bare hv h) _).trans (bind_of_ok hls _)
    | none =>
      obtain ⟨b, h₁, hwhole, p⟩ := lowerWhole_placed hv hroom h
      obtain ⟨ls, h', hls, lowers⟩ := ih hrest h₁
      refine ⟨.buffer b :: ls, h', ?_, .placed hv p lowers⟩
      exact (bind_of_ok hwhole _).trans (bind_of_ok hls _)

/-- The blocks that arguments leave behind if there is no buffer for one of them, newest first.  Each
argument before that one has its block, from the next one on, if it needs one. -/
def stranded (next : Nat) : List Value → List Nat
  | [] => []
  | v :: vs =>
    if v.Lowerable then
      match v.bare with
      | some _ => stranded next vs
      | none => stranded (next + 1) vs ++ [next]
    else told next v.outerLength

/-- If there is no buffer for one of them, none is handed over, and those before it stay live. -/
theorem lowerArguments_error (long : ¬ ∀ v ∈ vs, v.Lowerable) (h : Heap) :
    ∃ e h', lowerArguments nativeEntries.allocator vs h = .error e h' ∧
      h'.live = stranded h.next vs ++ h.live := by
  induction vs generalizing h with
  | nil => exact absurd nofun long
  | cons v vs ih =>
    rw [stranded]
    by_cases hroom : v.Lowerable
    · have hrest : ¬ ∀ w ∈ vs, w.Lowerable := fun hvs =>
        long (List.forall_mem_cons.2 ⟨hroom, hvs⟩)
      rw [if_pos hroom]
      cases hv : v.bare with
      | some l =>
        obtain ⟨e, h', hls, hlive⟩ := ih hrest h
        exact ⟨e, h', (bind_of_ok (lowerWhole_bare hv h) _).trans (bind_of_error hls _), hlive⟩
      | none =>
        obtain ⟨b, h₁, hwhole, p⟩ := lowerWhole_placed hv hroom h
        obtain ⟨e, h', hls, hlive⟩ := ih hrest h₁
        refine ⟨e, h', (bind_of_ok hwhole _).trans (bind_of_error hls _), ?_⟩
        rw [hlive, p.next, p.live, List.append_assoc]
        rfl
    · obtain ⟨e, h', hwhole, hlive⟩ := lowerWhole_refused hroom h
      rw [if_neg hroom]
      exact ⟨e, h', bind_of_error hwhole _, hlive⟩

end LowerArguments

/-! ### Taking arguments -/

section Lift

variable {S : Schema} {t : WireType} {b : Buffer} {v : Value}

/-- A buffer that stands for a value is lifted, and taken back once. -/
theorem Schema.lift_ok {A : Allocator Heap}
    (agrees : ∀ h h', Native.allocator.free b h = .ok () h' → A.free b h = .ok () h')
    (layout : b.check = .ok ()) (data : b.address? ≠ none) (holds : S.contents t b = .ok v)
    (h : Heap) : ∃ h', S.lift A t b h = .ok v h' ∧ h.TookBack b h' := by
  obtain ⟨h₁, hfree⟩ := Native.allocator_accepts b h layout
  have hread : outcome (S.lift A t b) h = .ok v :=
    (S.lift_outcome_of_free t fun _ => ⟨h₁, agrees h h₁ hfree⟩).trans holds
  have took := S.lift_tookBack A t layout data h (agrees h)
  rcases hl : attempt (S.lift A t b) h with ⟨r, h'⟩
  rw [outcome, hl] at hread
  cases hread
  rw [hl] at took
  exact ⟨h', of_attempt_ok hl, took⟩

/-- The native side takes the argument that was lowered for it. -/
theorem Native.liftArgument_ok {h₀ h₁ : Heap} (name : String) (p : h₀.Placed v b h₁)
    (m : S.Member t v) (h : Heap) :
    ∃ h', liftArgument S name t b h = .ok v h' ∧ h.TookBack b h' := by
  obtain ⟨h', hl, took⟩ := Schema.lift_ok (fun _ _ => id) p.layout p.data (p.contents m) h
  refine ⟨h', ?_, took⟩
  unfold liftArgument
  rw [hl]

end Lift

namespace Host

/-! ### Closing -/

/-- How the native side closed tells what the caller gets: what was returned, a declared error, or
the message of a fault.  There are the blocks that were live before, and that of the answer. -/
inductive Answers (S : Schema) (t : WireType) (declares : Option WireType) (live : List Nat) :
    EStateM.Result Native.Fault Heap Lowered → Except CallError Value → Prop
  | bare {l : Lowered} {v : Value} {h : Heap} (unbuffered : ∀ b, l ≠ .buffer b)
    (stands : wholeValue S t l = .ok v) (same : h.live = live) :
    Answers S t declares live (.ok l h) (.ok v)
  | buffer {b : Buffer} {v : Value} {h : Heap} (out : Heap.HandedOut live b h)
    (data : b.address? ≠ none) (stands : S.contents t b = .ok v) :
    Answers S t declares live (.ok (.buffer b) h) (.ok v)
  | declared {errorType : WireType} {b : Buffer} {e : Value} {h : Heap}
    (may : declares = some errorType) (out : Heap.HandedOut live b h) (data : b.address? ≠ none)
    (stands : S.contents errorType b = .ok e) :
    Answers S t declares live (.error (.domain b) h) (.error (.domain e))
  | broken {f : Native.Fault} {text : Option String} {h : Heap}
    (hf : f = .panic text ∨ ∃ m, f = .internal m ∧ text = some m) (same : h.live = live) :
    Answers S t declares live (.error f h)
      (.error (.internal (text.elim .panicWithoutMessage messageError)))

/-- Whether there is a buffer for what a call answers, if it needs one. -/
def Carried : Except CallError Value → Prop
  | .ok v => v.Lowerable
  | .error (.domain e) => e.Lowerable
  | .error (.internal _) => True

/-- What is answered arrives if it can be carried; if it cannot, an internal error arrives. -/
structure Arrives (answer r : Except CallError Value) : Prop where
  whole : Carried answer → r = answer
  lost : ¬ Carried answer → ∃ e, r = .error (.internal e)

theorem arrives_self (answer : Except CallError Value) (h : Carried answer) :
    Arrives answer answer := ⟨fun _ => rfl, absurd h⟩

section Close

variable {S : Schema} {t : WireType} {declares : Option WireType} {v : Value}

/-- A result is put into a buffer that stands for it, or it is too long and nothing is left. -/
theorem lowerReturn_cases (m : S.Member t v) (h : Heap) :
    (v.Lowerable ∧ ∃ b h', Native.lowerReturn v h = .ok b h' ∧ Heap.HandedOut h.live b h' ∧
      b.address? ≠ none ∧ S.contents t b = .ok v) ∨
    (¬ v.Lowerable ∧ ∃ w h', Native.lowerReturn v h = .error (.internal w) h' ∧
      h'.live = h.live) := by
  by_cases room : v.Lowerable
  · obtain ⟨b, h', hl, out, data, holds⟩ := Native.lower_handedOut h room
    have stands := S.contents_whole m.typed room.1 m.keyed out.layout holds
    exact .inl ⟨room, b, h', ofWire_of_ok hl, out, data, stands⟩
  · obtain ⟨w, h', hl, same⟩ := Native.lower_unlowerable h room
    exact .inr ⟨room, w.message, h', ofWire_of_error hl, same⟩

/-- What is returned in a buffer arrives. -/
theorem lowerReturn_answers (m : S.Member t v) (h : Heap) :
    ∃ r, Answers S t declares h.live
        ((do return .buffer (← Native.lowerReturn v) : Native.Body Lowered) h) r ∧
      Arrives (.ok v) r := by
  rcases lowerReturn_cases m h with ⟨room, b, h', hl, out, data, stands⟩ | ⟨long, w, h', hl, same⟩
  · rw [bind_of_ok hl]
    exact ⟨_, .buffer out data stands, arrives_self _ room⟩
  · rw [bind_of_error hl]
    exact ⟨_, .broken (.inr ⟨w, rfl, rfl⟩) same, fun c => absurd c long, fun _ => ⟨_, rfl⟩⟩

/-- So does what is declared. -/
theorem throwDomain_answers {errorType : WireType} (m : S.Member errorType v)
    (may : declares = some errorType) (h : Heap) :
    ∃ r, Answers S t declares h.live
        ((do throw (.domain (← Native.lowerReturn v)) : Native.Body Lowered) h) r ∧
      Arrives (.error (.domain v)) r := by
  rcases lowerReturn_cases m h with ⟨room, b, h', hl, out, data, stands⟩ | ⟨long, w, h', hl, same⟩
  · rw [bind_of_ok hl]
    exact ⟨_, .declared may out data stands, arrives_self _ room⟩
  · rw [bind_of_error hl]
    exact ⟨_, .broken (.inr ⟨w, rfl, rfl⟩) same, fun c => absurd c long, fun _ => ⟨_, rfl⟩⟩

end Close

/-! ### Reading the answer -/

section Invoke

variable (S : Schema) (A : Allocator σ) (errorType : WireType) {α β : Type}

/-- Where no declared error is reported, it does not matter whether one is expected. -/
theorem checkStatus_undeclared {s : Status} (undeclared : s.kind? ≠ some .error) (st : σ) :
    checkStatus S A errorType s st =
      ((checkInternalStatus A s st).1.mapError .internal, (checkInternalStatus A s st).2) := by
  rcases hk : s.kind? with _ | _ | _ | _
  · rw [checkStatus_of_unknown S A errorType hk, checkInternalStatus_of_unknown A hk]
    rfl
  · rw [checkStatus_of_success S A errorType hk, checkInternalStatus_of_success A hk]
    rfl
  · exact absurd hk undeclared
  · rw [checkStatus_of_panic S A errorType hk, checkInternalStatus_of_panic A hk]
    rfl

theorem returnValue_undeclared {call : α × Status} (undeclared : call.2.kind? ≠ some .error)
    (st : σ) : returnValue S A errorType call st =
      ((·.mapError .internal) <$> returnPlainValue A call) st := by
  have hcheck := checkStatus_undeclared S A errorType undeclared st
  show ((checkStatus S A errorType call.2 st).1.map fun _ => call.1,
    (checkStatus S A errorType call.2 st).2) = _
  rw [hcheck]
  show _ = (((checkInternalStatus A call.2 st).1.map fun _ => call.1).mapError CallError.internal,
    (checkInternalStatus A call.2 st).2)
  cases (checkInternalStatus A call.2 st).1 <;> rfl

/-- Whoever declares no errors gets what another would get, unless one is reported. -/
theorem invoke_undeclared {lift : α → EStateM WireError σ β}
    {entry : Status → StateM σ (α × Status)} {st : σ}
    (undeclared : (entry {} st).1.2.kind? ≠ some .error) :
    invoke S A none lift entry st = invoke S A (some errorType) lift entry st := by
  have hreturn := returnValue_undeclared S A errorType undeclared (entry {} st).2
  simp only [invoke, stateM_bind, hreturn]

end Invoke

/-- Only a declared error is reported as one. -/
theorem run_undeclared {zero : Lowered} {body : Native.Body Lowered} {s : Status} {h : Heap}
    (undeclared : ∀ b h', body h ≠ .error (.domain b) h') :
    (Native.run zero body s h).1.2.kind? ≠ some .error := by
  unfold Native.run
  rw [stateM_bind]
  cases hb : body h with
  | ok l h' =>
    rw [attempt_ok hb]
    exact nofun
  | error f h' =>
    rw [attempt_error hb]
    cases f with
    | domain b => exact absurd hb (undeclared b h')
    | internal m => exact nofun
    | panic text => exact nofun

section Reports

variable {S : Schema} {errorType : WireType} {entry : Status → StateM Heap (Lowered × Status)}
  {h : Heap} {live : List Nat} {returned : Lowered}

/-- The host lifts what was returned. -/
theorem Reports.invoke_ok (reports : Reports S errorType (entry {} h) live returned (.ok ()))
    (lift : Lowered → EStateM WireError Heap α) : ∃ h₁, h₁.live = live ∧
      invoke S nativeEntries.allocator (some errorType) lift entry h =
        (lifting (attempt (lift returned) h₁).1, (attempt (lift returned) h₁).2) := by
  obtain ⟨hread, -, hlive⟩ := reports.checked
  refine ⟨_, hlive, ?_⟩
  rw [← reports.returned]
  simp only [invoke, returnValue, stateM_bind, hread]
  rfl

/-- Where there is an error, nothing is lifted. -/
theorem Reports.invoke_error {e : CallError}
    (reports : Reports S errorType (entry {} h) live returned (.error e))
    (lift : Lowered → EStateM WireError Heap α) : ∃ h₁, h₁.live = live ∧
      invoke S nativeEntries.allocator (some errorType) lift entry h = (.error e, h₁) := by
  obtain ⟨hread, -, hlive⟩ := reports.checked
  refine ⟨_, hlive, ?_⟩
  simp only [invoke, returnValue, stateM_bind, hread]
  rfl

end Reports

/-- **The caller gets the answer**, and no block that was handed out for it is left. -/
theorem Answers.invoked {S : Schema} {t : WireType} {declares : Option WireType} {zero : Lowered}
    {body : Native.Body Lowered} {h : Heap} {live : List Nat} {r : Except CallError Value}
    (answers : Answers S t declares live (body h) r) :
    ∃ h', invoke S nativeEntries.allocator declares (S.liftWhole nativeEntries.allocator t)
      (Native.run zero body) h = (r, h') ∧ h'.live = live := by
  -- who declares nothing is told of nothing that is declared, and may expect what he likes
  obtain ⟨errorType, hdeclares, hinvoke⟩ : ∃ errorType, (∀ e, declares = some e → e = errorType) ∧
      invoke S nativeEntries.allocator declares (S.liftWhole nativeEntries.allocator t)
        (Native.run zero body) h =
      invoke S nativeEntries.allocator (some errorType) (S.liftWhole nativeEntries.allocator t)
        (Native.run zero body) h := by
    cases declares with
    | some e => exact ⟨e, fun _ he => (Option.some.inj he).symm, rfl⟩
    | none =>
      refine ⟨t, nofun, invoke_undeclared S _ t (run_undeclared ?_)⟩
      intro b h' hb
      rw [hb] at answers
      cases answers with
      | declared may => cases may
      | broken hf => rcases hf with hf | ⟨m, hf, -⟩ <;> cases hf
  rw [hinvoke]
  generalize hb : body h = close at answers
  cases answers with
  | @bare l v h₁ unbuffered stands same =>
    obtain ⟨h₂, hlive, hcall⟩ :=
      Reports.invoke_ok (run_value hb rfl) (S.liftWhole nativeEntries.allocator t)
    have hread := liftWhole_outcome S nativeEntries_accepts t l h₂
    have hkeeps : (attempt (S.liftWhole nativeEntries.allocator t l) h₂).2 = h₂ := by
      cases l with
      | scalar s => exact congrArg Prod.snd (attempt_ofExcept _ h₂)
      | buffer b => exact absurd rfl (unbuffered b)
      | pointer a => rfl
      | void => rfl
    rw [outcome, stands] at hread
    rw [hread, hkeeps] at hcall
    exact ⟨h₂, hcall, hlive.trans same⟩
  | @buffer b v h₁ out data stands =>
    obtain ⟨h₂, hlive, hcall⟩ :=
      Reports.invoke_ok (run_value hb rfl) (S.liftWhole nativeEntries.allocator t)
    obtain ⟨h₃, hlift, took⟩ := Schema.lift_ok (A := nativeEntries.allocator)
      (fun _ _ => nativeEntries_free) out.layout data stands h₂
    have hwhole : S.liftWhole nativeEntries.allocator t (.buffer b) h₂ = .ok v h₃ := hlift
    rw [attempt_ok hwhole] at hcall
    exact ⟨h₃, hcall, took.live_eq (hlive.trans out.live_eq)⟩
  | @declared e b v h₁ may out data stands =>
    obtain rfl := hdeclares e may
    obtain ⟨h₂, hlive, hcall⟩ := Reports.invoke_error (run_declared hb out data stands) _
    exact ⟨h₂, hcall, hlive⟩
  | broken hf same =>
    obtain ⟨h₂, hlive, hcall⟩ := Reports.invoke_error (run_broken hb hf) _
    exact ⟨h₂, hcall, hlive.trans same⟩

end Host

end CallBoundary
