import CallBoundary.Proofs.Buffer.Ownership
import CallBoundary.Proofs.Host.Relay

/-!
# Answering a callback, whatever the allocator does

An error that a callback ends with has to be lowered, and so has the message of a panic.  Either can
fail: the allocator refuses, or hands out what cannot be used or is too short; and then it may refuse
to take that back.  The message that an error could not be lowered has to be lowered as well, and
that can fail in its turn.  `Answered` says what the native side finds in every case, and which
blocks are live afterwards: the one that it finds, and those that were not taken back.
-/

namespace CallBoundary

variable {σ α : Type}

/-- A buffer has a sound layout, and its contents are the whole of a value. -/
def Buffer.Holds (b : Buffer) (v : Value) : Prop :=
  b.check = .ok () ∧ b.length = v.outerLength ∧ b.contents = v.encodeOuter

namespace Host

/-- What a method returned, if it did. -/
def CallbackOutcome.value? : CallbackOutcome α → Option α
  | .returned a => some a
  | _ => none

/-- The message with which a callback breaks down, if it does, and the state in which the message is
lowered. -/
def breakdown? (A : Allocator σ) (st : σ) : CallbackOutcome α → Option (String × σ)
  | .returned _ => none
  | .failed e =>
    match e.lower A st with
    | .ok _ _ => none
    | .error w st' => some (s!"Failed to lower callback error: {w.message}", st')
  | .panicked text => some (text.getD "callback panicked", st)

/-- What becomes of a panic's message that is lowered in a state: the buffer of the status holds it,
or there is none. -/
structure Told (A : Allocator σ) (message : String) (st : σ) (s : Status) : Prop where
  kind : s.kind? = some .panic
  text : outcome ((Value.text message).lower A) st = .ok s.payload ∧ s.payload.Holds (.text message) ∨
    (∃ w, outcome ((Value.text message).lower A) st = .error w) ∧ s.payload = .unallocated

/-- The blocks that are live after some calls: those before them, the data of a buffer, and what the
allocator did not take back. -/
def Left (b : Buffer) (calls : List AllocatorCall) : Prop :=
  ∀ live, (liveAfter live calls).Perm
    (b.address?.toList ++ (calls.filterMap AllocatorCall.lost? ++ live))

/-- What a callback that ended like `o` leaves behind, when its status was `s` before and the
allocator in the state `st`. -/
structure Answered (A : Allocator σ) (zero : α) (o : CallbackOutcome α) (s : Status) (st : σ)
    (result : α × Status) (calls : List AllocatorCall) : Prop where
  /-- The value is the one that was returned, and otherwise zero. -/
  value : result.1 = o.value?.getD zero
  /-- The code says so just when a value was returned, -/
  success : result.2.kind? = some .success ↔ ∃ a, o = .returned a
  /-- and the buffer is as it was. -/
  untouched : ∀ a, o = .returned a → result.2.payload = s.payload
  /-- It says that there is an error just when there is one and it could be lowered, -/
  error : result.2.kind? = some .error ↔ ∃ e b, o = .failed e ∧ outcome (e.lower A) st = .ok b
  /-- and the buffer holds this error. -/
  encoded : ∀ e, o = .failed e → result.2.kind? = some .error → result.2.payload.Holds e
  /-- It says that there was a panic just when there is something to say about one, -/
  panic : result.2.kind? = some .panic ↔ (breakdown? A st o).isSome
  /-- and that is told, if it can be. -/
  told : ∀ message st', breakdown? A st o = some (message, st') → Told A message st' result.2
  /-- The data of the buffer is live, and what was not taken back. -/
  left : Left result.2.payload calls

section Answer

variable {A : Allocator σ} {st st' : σ} {message : String}

theorem lower_holds {v : Value} {b : Buffer} (hl : v.lower A st = .ok b st') : b.Holds v := by
  obtain ⟨b₀, -, layout, -, room, rfl⟩ := Value.lower_ok hl
  rw [← v.length_encodeOuter] at room
  obtain ⟨hcheck, hlen, hcontents, -⟩ := Buffer.overwrite_sound layout room
  exact ⟨hcheck, hlen.trans v.length_encodeOuter, hcontents⟩

/-- A panic's message is told, if it can be lowered. -/
theorem panicStatus_told (sound : A.Sound) (message : String) (st : σ) :
    ∃ calls, Notes (panicStatus A.audited message) (panicStatus A message) st calls ∧
      Told A message st (panicStatus A message st).1 ∧
      ∀ live, liveAfter live calls = (panicStatus A message st).1.payload.address?.toList ++
        (calls.filterMap AllocatorCall.lost? ++ live) := by
  obtain ⟨calls, hnotes, h⟩ := (Value.text message).lowering_notes A st
  have hlive := h.live sound
  refine ⟨calls, ?_, ?_⟩
  · refine hnotes.bind_nil ?_
    cases (attempt ((Value.text message).lower A) st).1 <;> exact notes_pure _ _
  · cases hl : (Value.text message).lower A st with
    | ok b st' =>
      rw [outcome, attempt_ok hl] at hlive
      rw [panicStatus_of_ok hl]
      refine ⟨⟨rfl, .inl ⟨?_, lower_holds hl⟩⟩, hlive⟩
      rw [outcome, attempt_ok hl]
      rfl
    | error w st' =>
      rw [outcome, attempt_error hl] at hlive
      rw [panicStatus_of_error hl]
      exact ⟨⟨rfl, .inr ⟨⟨w, outcome_error hl⟩, rfl⟩⟩, hlive⟩

/-- A callback that broke down and says so is answered. -/
theorem Told.answered {zero : α} {o : CallbackOutcome α} {s s' : Status} {calls : List AllocatorCall}
    (hbreak : breakdown? A st o = some (message, st')) (htold : Told A message st' s')
    (left : Left s'.payload calls) : Answered A zero o s st (zero, s') calls := by
  constructor
  · cases o with
    | returned a => cases hbreak
    | _ => rfl
  · rw [htold.kind]
    refine ⟨nofun, ?_⟩
    rintro ⟨a, rfl⟩
    cases hbreak
  · rintro a rfl
    cases hbreak
  · rw [htold.kind]
    refine ⟨nofun, ?_⟩
    rintro ⟨e, b, rfl, hb⟩
    -- an error that was lowered is none to break down over
    cases hl : e.lower A st with
    | ok b' st₁ =>
      simp only [breakdown?, hl] at hbreak
      cases hbreak
    | error w st₁ =>
      rw [outcome_error hl] at hb
      cases hb
  · intro e _ hkind
    rw [htold.kind] at hkind
    cases hkind
  · rw [hbreak]
    exact ⟨fun _ => rfl, fun _ => htold.kind⟩
  · intro m₁ st₁ h
    rw [hbreak] at h
    cases h
    exact htold
  · exact left

theorem answered_returned (zero a : α) {s : Status} (hs : s.payload.isUnallocated = true) :
    Answered A zero (.returned a) s st (a, s.setSuccess) [] := by
  constructor
  · rfl
  · exact ⟨fun _ => ⟨a, rfl⟩, fun _ => rfl⟩
  · exact fun _ _ => rfl
  · exact ⟨nofun, nofun⟩
  · exact nofun
  · exact ⟨nofun, nofun⟩
  · exact nofun
  · intro live
    show live.Perm (s.payload.address?.toList ++ live)
    rw [Buffer.address?_of_isUnallocated hs]
    exact .refl live

theorem answered_failed {e : Value} {b : Buffer} (hl : e.lower A st = .ok b st') (zero : α)
    (s : Status) {calls : List AllocatorCall} (left : Left b calls) :
    Answered A zero (.failed e) s st (zero, .ofError b) calls := by
  have hbreak : breakdown? A st (.failed (α := α) e) = none := by simp only [breakdown?, hl]
  have hout : outcome (e.lower A) st = .ok b := by rw [outcome, attempt_ok hl]
  constructor
  · rfl
  · constructor
    · intro h
      cases h
    · rintro ⟨_, h⟩
      cases h
  · intro _ h
    cases h
  · exact ⟨fun _ => ⟨e, b, rfl, hout⟩, fun _ => rfl⟩
  · rintro _ ⟨⟩ _
    exact lower_holds hl
  · rw [hbreak]
    constructor
    · intro h
      cases h
    · intro h
      cases h
  · intro _ _ h
    rw [hbreak] at h
    cases h
  · exact left

/-- **A callback is answered whatever the allocator does**, and nothing is lost but what it does not
take back. -/
theorem answered_of_sound (sound : A.Sound) (zero : α) (o : CallbackOutcome α) (s : Status)
    (hs : s.payload.isUnallocated = true) (st : σ) :
    ∃ calls, Notes (answer A.audited zero o s) (answer A zero o s) st calls ∧
      Answered A zero o s st (answer A zero o s st).1 calls := by
  cases o with
  | returned a => exact ⟨[], notes_pure _ _, answered_returned zero a hs⟩
  | panicked text =>
    obtain ⟨calls, hnotes, htold, hlive⟩ :=
      panicStatus_told sound (text.getD "callback panicked") st
    exact ⟨calls, hnotes.bind_nil (notes_pure _ _), htold.answered rfl fun live => .of_eq (hlive live)⟩
  | failed e =>
    obtain ⟨calls, hnotes, h⟩ := e.lowering_notes A st
    have hlive := h.live sound
    cases hl : e.lower A st with
    | ok b st' =>
      rw [outcome, attempt_ok hl] at hlive
      refine ⟨calls, hnotes.bind_nil ?_, ?_⟩
      · rw [attempt_ok hl]
        exact notes_pure _ _
      · rw [answer_failed hl]
        exact answered_failed hl zero s fun live => .of_eq (hlive live)
    | error w st' =>
      rw [outcome, attempt_error hl] at hlive
      obtain ⟨more, hnotes', htold, hlive'⟩ :=
        panicStatus_told sound s!"Failed to lower callback error: {w.message}" st'
      refine ⟨calls ++ more, hnotes.bind ?_, ?_⟩
      · rw [attempt_error hl]
        exact hnotes'.bind_nil (notes_pure _ _)
      · rw [answer_broken hl]
        refine htold.answered (by simp only [breakdown?, hl]) fun live => ?_
        -- first the error's buffer may be lost, and then the message's
        have hlive : liveAfter live calls = calls.filterMap AllocatorCall.lost? ++ live := hlive live
        rw [liveAfter_append, hlive, hlive', List.filterMap_append, List.append_assoc]
        exact (List.perm_append_comm_assoc ..).append_left _

end Answer

/-- The stingy allocator has no buffer for the error and none for the message that says so, and takes
neither back: there is nothing in the status, and two blocks are lost. -/
theorem answered_stingy :
    Plan.stingy.allocator.Sound ∧ ({} : Status).payload.isUnallocated = true ∧
    ∃ calls, Notes (answer Plan.stingy.allocator.audited 0 (.failed (.text "no")) {})
        (answer Plan.stingy.allocator 0 (.failed (.text "no")) {}) {} calls ∧
      Answered Plan.stingy.allocator 0 (.failed (.text "no")) {} {}
        (answer Plan.stingy.allocator 0 (.failed (.text "no")) {} {}).1 calls ∧
      (answer Plan.stingy.allocator 0 (.failed (.text "no")) {} {}).1 =
        (0, .ofPanic .unallocated) ∧
      (calls.filterMap AllocatorCall.lost?).length = 2 := by
  have sound := Plan.stingy.allocator_sound
  obtain ⟨calls, hnotes, h⟩ := answered_of_sound sound 0 (.failed (.text "no")) {} rfl {}
  have hcalls : (answer Plan.stingy.allocator.audited 0 (.failed (.text "no")) {} ({}, [])).2.2 =
      calls := by
    rw [hnotes []]
    rfl
  refine ⟨sound, rfl, calls, hnotes, h, ?_, ?_⟩
  · rfl
  · rw [← hcalls]
    rfl

end Host

end CallBoundary
