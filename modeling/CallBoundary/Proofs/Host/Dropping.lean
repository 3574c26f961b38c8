import CallBoundary.Proofs.Host.CallSteps
import CallBoundary.Sample.Types

/-!
# Dropping a call

Between its first poll and its end a call has polled the native side and done nothing else
(`Polling`), whatever the native side answers and whatever becomes of other calls.  So a call that
is dropped then cancels and frees the native future, each once, and is silent ever after.  A call
that is dropped before its first poll does neither: nothing stands yet that would give the native
future back.  Both are `drop_releases_polled`.
-/

namespace CallBoundary.Host

/-- What can happen to a call, apart from its being dropped, and around it. -/
inductive Occurrence (σ : Type) where
  /-- The executor polls the call. -/
  | poll
  /-- The native side calls a continuation, of this call or another, with any code. -/
  | answer (a : Answer)
  /-- The native side goes on by itself. -/
  | native (s : σ)
  /-- Other calls park continuations and lose them. -/
  | elsewhere (t : HandleTable Unit)

/-- Whether the executor polls the call. -/
def Occurrence.isPoll : Occurrence σ → Bool
  | poll => true
  | _ => false

namespace AsyncCall

/-! ### Between the first poll and the end -/

/-- The call was polled, and has done nothing but to poll the native side. -/
structure Polling (c : AsyncCall σ) : Prop where
  started : c.phase ≠ .unstarted
  calls : ∃ h hs, c.calls = (h :: hs).map .poll

/-- Where a call can be: not polled yet, between its first poll and its end, or over. -/
inductive Stands : Bool → AsyncCall σ → Prop
  | unstarted {c : AsyncCall σ} : c.phase = .unstarted → c.calls = [] → Stands false c
  | polling {c : AsyncCall σ} : Polling c → Stands true c
  | ended {c : AsyncCall σ} : c.phase = .over → Stands true c

section Answers

variable {c : AsyncCall σ} {polled : Bool}

/-- Where a call stands is a matter of its phase and its calls of the native side alone. -/
theorem Stands.congr (hc : Stands polled c) {c' : AsyncCall σ} (hp : c'.phase = c.phase)
    (hcalls : c'.calls = c.calls) : Stands polled c' := by
  cases hc with
  | unstarted hp' hcalls' => exact .unstarted (hp.trans hp') (hcalls.trans hcalls')
  | polling hc =>
    refine .polling ⟨?_, ?_⟩
    · rw [hp]
      exact hc.started
    · rw [hcalls]
      exact hc.calls
  | ended hp' => exact .ended (hp.trans hp')

/-- No answer starts a call. -/
theorem receive_unstarted (a : Answer) (hp : c.phase = .unstarted) :
    (c.receive a).phase = .unstarted := by
  have hne : c.phase ≠ .waiting a.continuation := by rw [hp]; nofun
  rcases receive_of_ne c a hne with h | h
  · rw [h, hp]
  · rw [h, hp]

theorem Polling.receive (hc : Polling c) (a : Answer) : Polling (c.receive a) := by
  obtain ⟨hstarted, hcalls⟩ := hc
  refine ⟨?_, ?_⟩
  · by_cases hw : c.phase = .waiting a.continuation
    · cases hf : c.continuations.find? a.continuation with
      | none =>
        rw [receive_of_none c a hf]
        exact hstarted
      | some u =>
        rw [receive_of_waiting c a hf hw]
        nofun
    · rcases receive_of_ne c a hw with h | h
      · rw [h]
        exact hstarted
      · rw [h]
        exact hstarted
  · rw [receive_calls]
    exact hcalls

/-- An answer leaves a call where it stands. -/
theorem Stands.fire (hc : Stands polled c) (a : Answer) : Stands polled (c.fire a) := by
  obtain ⟨wakes, hfire⟩ := fire_eq c a
  have hreceive : Stands polled (c.receive a) := by
    cases hc with
    | unstarted hp hcalls =>
      exact .unstarted (receive_unstarted a hp) ((receive_calls c a).trans hcalls)
    | polling hc => exact .polling (hc.receive a)
    | ended hp => exact .ended (receive_over c a hp)
  rw [hfire]
  exact hreceive.congr rfl rfl

end Answers

/-! ### Polls of the executor -/

section Advancing

variable {c : AsyncCall σ} (F : FutureEntries σ) (S : Schema) (A : Allocator σ)
  (errorType : WireType) (lift : Lowered → EStateM WireError σ α)

/-- One more native poll, after polls only. -/
theorem polling_issue {hs : List Handle} (hcalls : c.calls = hs.map .poll) :
    Polling (issue F c) := by
  let asked : AsyncCall σ := { c with
    native := (F.poll c.continuations.next c.native).2
    continuations := (c.continuations.insert ()).2
    phase := .waiting c.continuations.next
    calls := c.calls ++ [.poll c.continuations.next] }
  have hasked : Polling asked := by
    refine ⟨nofun, ?_⟩
    show ∃ h hs, c.calls ++ [.poll c.continuations.next] = (h :: hs).map .poll
    rw [hcalls]
    cases hs with
    | nil => exact ⟨_, [], rfl⟩
    | cons h hs => exact ⟨h, hs ++ [c.continuations.next], by simp⟩
  exact foldl_receive (P := Polling) (fun _ a hc => hc.receive a)
    (F.poll c.continuations.next c.native).1 hasked

/-- **The loop of a call that was polled** leaves it between its first poll and its end, or at its
end. -/
theorem Polling.advance (n : Nat) (hc : Polling c) :
    Stands true (advance F S A errorType lift n c).2 := by
  induction n generalizing c with
  | zero => exact .polling hc
  | succ n ih =>
    cases hp : c.phase with
    | unstarted => exact absurd hp hc.started
    | waiting h =>
      rw [advance_waiting hp]
      exact .polling hc
    | answered code =>
      cases hcode : PollCode.ofInt8? code with
      | none =>
        rw [advance_unknown hp hcode]
        exact .ended (abandon_phase c F)
      | some p =>
        have hp' : c.phase = .answered p.toInt8 := by
          rw [hp, PollCode.toInt8_of_ofInt8? hcode]
        cases p with
        | ready =>
          rw [advance_ready hp']
          exact .ended rfl
        | maybeReady =>
          rw [advance_issue (.inr hp')]
          obtain ⟨h, hs, hcalls⟩ := hc.calls
          exact ih (polling_issue F hcalls)
    | _ =>
      rw [advance_over hp]
      exact .polling hc

/-- After a poll of its executor a call was polled. -/
theorem Stands.poll {polled : Bool} (hc : Stands polled c) :
    Stands true (c.poll F S A errorType lift).2 := by
  cases hc with
  | unstarted hp hcalls =>
    rw [AsyncCall.poll, advance_issue (.inl hp)]
    have hnone : c.calls = ([] : List Handle).map .poll := hcalls
    exact (polling_issue F hnone).advance F S A errorType lift _
  | polling hc => exact hc.advance F S A errorType lift _
  | ended hp =>
    rw [AsyncCall.poll, advance_over hp]
    exact .ended hp

/-! ### Whole runs -/

/-- The call after something has happened. -/
def undergo (c : AsyncCall σ) : Occurrence σ → AsyncCall σ
  | .poll => (c.poll F S A errorType lift).2
  | .answer a => c.fire a
  | .native s => { c with native := s }
  | .elsewhere t => { c with continuations := t }

/-- The call after some things have happened, one after the other. -/
def undergoAll (c : AsyncCall σ) (os : List (Occurrence σ)) : AsyncCall σ :=
  os.foldl (undergo F S A errorType lift) c

/-- **What one occurrence does to a call**: only a poll by its executor gets it anywhere else. -/
theorem Stands.undergo {polled : Bool} (hc : Stands polled c) (o : Occurrence σ) :
    Stands (polled || o.isPoll) (undergo F S A errorType lift c o) := by
  cases o with
  | poll =>
    show Stands (polled || true) _
    rw [Bool.or_true]
    exact hc.poll F S A errorType lift
  | answer a =>
    show Stands (polled || false) _
    rw [Bool.or_false]
    exact hc.fire a
  | native s =>
    show Stands (polled || false) _
    rw [Bool.or_false]
    exact hc.congr rfl rfl
  | elsewhere t =>
    show Stands (polled || false) _
    rw [Bool.or_false]
    exact hc.congr rfl rfl

/-- **Where a run leaves a call**: what counts is whether it was polled. -/
theorem Stands.undergoAll {polled : Bool} (os : List (Occurrence σ)) (hc : Stands polled c) :
    Stands (polled || os.any (·.isPoll)) (undergoAll F S A errorType lift c os) := by
  induction os generalizing c polled with
  | nil =>
    rw [List.any_nil, Bool.or_false]
    exact hc
  | cons o os ih =>
    rw [List.any_cons, ← Bool.or_assoc]
    exact ih (hc.undergo F S A errorType lift o)

/-- A call that is over makes no more calls of the native side. -/
theorem undergo_over (hp : c.phase = .over) (o : Occurrence σ) :
    (undergo F S A errorType lift c o).phase = .over ∧
      (undergo F S A errorType lift c o).calls = c.calls := by
  cases o with
  | poll =>
    rw [undergo, AsyncCall.poll, advance_over hp]
    exact ⟨hp, rfl⟩
  | answer a =>
    obtain ⟨wakes, hfire⟩ := fire_eq c a
    rw [undergo, hfire]
    exact ⟨receive_over c a hp, receive_calls c a⟩
  | native s => exact ⟨hp, rfl⟩
  | elsewhere t => exact ⟨hp, rfl⟩

theorem undergoAll_over (os : List (Occurrence σ)) (hp : c.phase = .over) :
    (undergoAll F S A errorType lift c os).phase = .over ∧
      (undergoAll F S A errorType lift c os).calls = c.calls := by
  induction os generalizing c with
  | nil => exact ⟨hp, rfl⟩
  | cons o os ih =>
    obtain ⟨hover, hcalls⟩ := undergo_over F S A errorType lift hp o
    obtain ⟨hover', hcalls'⟩ := ih hover
    exact ⟨hover', hcalls'.trans hcalls⟩

/-- A suspended call that was polled is abandoned when it is dropped. -/
theorem Polling.drop (hc : Polling c) (hp : c.phase ≠ .over) :
    c.drop F = (true, abandon F c) := by
  cases h : c.phase with
  | unstarted => exact absurd h hc.started
  | waiting _ => exact drop_waiting h
  | answered _ => exact drop_answered h
  | _ => exact absurd h hp

/-- **A dropped call gives its native future back if it was ever polled.**  Whatever the native side
is, and whatever happens before the call is dropped and after: as long as it is not over, there is a
call to drop, and until then it has polled the native side and nothing else.  If its executor has
polled it, dropping it cancels the native future once and then frees it once, and these are the last
calls made; if not, the native side is never called at all. -/
theorem drop_releases_polled (native : σ) (t : HandleTable Unit)
    (before after : List (Occurrence σ)) :
    let start : AsyncCall σ := { native, continuations := t }
    let c := AsyncCall.undergoAll F S A errorType lift start before
    let c' := AsyncCall.undergoAll F S A errorType lift (c.drop F).2 after
    c.phase ≠ .over →
      (c.drop F).1 = true ∧ c'.phase = .over ∧ ∃ hs : List Handle, c.calls = hs.map .poll ∧
        (before.any (·.isPoll) = true → hs ≠ [] ∧ c'.calls = hs.map .poll ++ [.cancel, .free]) ∧
        (before.any (·.isPoll) = false → hs = [] ∧ c'.calls = []) := by
  intro start c c' hne
  have hstands : Stands (before.any (·.isPoll)) c := by
    have h : Stands false start := .unstarted rfl rfl
    have h' := h.undergoAll F S A errorType lift before
    rwa [Bool.false_or] at h'
  generalize hpolled : before.any (·.isPoll) = polled at hstands
  cases hstands with
  | unstarted hp hcalls =>
    have hdrop : c.drop F = (true, { c with phase := .over }) := drop_unstarted hp
    obtain ⟨hover, hcalls'⟩ := undergoAll_over F S A errorType lift after
      (c := (c.drop F).2) (by rw [hdrop])
    refine ⟨by rw [hdrop], hover, [], hcalls, nofun, fun _ => ⟨rfl, ?_⟩⟩
    rw [hcalls', hdrop]
    exact hcalls
  | polling hc =>
    have hdrop : c.drop F = (true, abandon F c) := hc.drop F hne
    obtain ⟨hover, hcalls'⟩ := undergoAll_over F S A errorType lift after
      (c := (c.drop F).2) (by rw [hdrop]; exact abandon_phase c F)
    obtain ⟨h, hs, hcalls⟩ := hc.calls
    refine ⟨by rw [hdrop], hover, h :: hs, hcalls, fun _ => ⟨nofun, ?_⟩, nofun⟩
    rw [hcalls', hdrop, abandon_calls, hcalls]
  | ended hp => exact absurd hp hne

end Advancing

/-- A call that is asked to poll again, is told so twice, and is dropped with the news that the result
is there. -/
theorem drop_releases_answered :
    let start : AsyncCall ScriptedFuture :=
      { native := { script := [some [1]], result := (.scalar (.zero .u32), {}) } }
    let before : List (Occurrence ScriptedFuture) := [.poll, .answer ⟨2, 0⟩, .answer ⟨2, 0⟩]
    let after : List (Occurrence ScriptedFuture) := [.poll, .answer ⟨1, 1⟩]
    let run := AsyncCall.undergoAll ScriptedFuture.entries Sample.schema ScriptedFuture.allocator
      .text (fun l => pure l)
    let c := run start before
    c.phase = .answered 0 ∧
      (run (c.drop ScriptedFuture.entries).2 after).calls =
        [.poll 1, .poll 2, .cancel, .free] := by
  intro start before after run c
  have hphase : c.phase = .answered 0 := by decide +kernel
  have hcalls : c.calls = [.poll 1, .poll 2] := by decide +kernel
  obtain ⟨-, -, hs, hpolls, hreleased, -⟩ := drop_releases_polled ScriptedFuture.entries
    Sample.schema ScriptedFuture.allocator .text (fun l => pure l) start.native {} before after
    (by rw [show _ = Phase.answered 0 from hphase]; nofun)
  refine ⟨hphase, ?_⟩
  rw [(hreleased rfl).2, ← hpolls]
  show c.calls ++ _ = _
  rw [hcalls]
  rfl

/-- A call that nobody has polled is dropped without a word to the native side. -/
theorem unpolled_not_released :
    let c : AsyncCall ScriptedFuture :=
      { native := { script := [], result := (.scalar (.zero .u32), {}) } }
    c.phase ≠ .over ∧ (c.drop ScriptedFuture.entries).1 = true ∧
      ¬ ((c.drop ScriptedFuture.entries).2.calls.count .cancel = 1 ∧
        (c.drop ScriptedFuture.entries).2.calls.count .free = 1) := by
  decide

end AsyncCall

end CallBoundary.Host
