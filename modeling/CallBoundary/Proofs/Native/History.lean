import CallBoundary.Proofs.Native.Handover

/-!
# The history of a run

The events of a run do not show the wake-ups; its `Future.history` does, moment by moment, and is the
events when these are left out (`events_history`).  A history is `Earned` if before every request for
another poll somebody has woken the computation, after all earlier calls of continuations.  There are
then no more such requests than wake-ups (`Earned.countP_le`).
-/

namespace CallBoundary.Native

/-- What happens at one moment of a run. -/
inductive Moment where
  /-- Somebody wakes the computation. -/
  | wakeUp
  | event (e : Event)
deriving DecidableEq

namespace Moment

/-- Whether a continuation is called to ask for another poll. -/
def asksAgain : Moment → Bool
  | event (.fired ⟨_, .maybeReady⟩) => true
  | _ => false

/-- Whether somebody has woken the computation since a continuation was called, after one moment
more. -/
def rouse (awake : Bool) : Moment → Bool
  | wakeUp => true
  | event (.fired _) => false
  | event _ => awake

end Moment

/-- Whether somebody has woken the computation since a continuation was last called. -/
def awake (H : List Moment) : Bool := H.foldl Moment.rouse false

@[simp] theorem awake_snoc (H : List Moment) (m : Moment) : awake (H ++ [m]) = m.rouse (awake H) :=
  List.foldl_append

/-- Somebody has: there is a wake-up after which no continuation was called. -/
theorem awake_iff {H : List Moment} : awake H = true ↔
    ∃ before after, H = before ++ .wakeUp :: after ∧ ∀ f, Moment.event (.fired f) ∉ after := by
  induction H using List.reverseRecOn with
  | nil => simp [awake]
  | append_singleton H m ih =>
    rw [awake_snoc]
    constructor
    · intro hm
      rcases m with _ | _ | _ | f
      · exact ⟨H, [], rfl, by simp⟩
      · obtain ⟨before, after, rfl, hafter⟩ := ih.1 hm
        exact ⟨before, after ++ [.event .polled], by simp, by simpa using hafter⟩
      · obtain ⟨before, after, rfl, hafter⟩ := ih.1 hm
        exact ⟨before, after ++ [.event .dropped], by simp, by simpa using hafter⟩
      · cases hm
    · rintro ⟨before, after, hH, hafter⟩
      rcases snoc_eq_append_cons.1 hH with ⟨-, -, rfl⟩ | ⟨after, rfl, rfl⟩
      · rfl
      · simp only [List.mem_append, List.mem_singleton, not_or, forall_and] at hafter
        have hawake := ih.2 ⟨before, after, rfl, hafter.1⟩
        rcases m with _ | _ | _ | f
        · rfl
        · exact hawake
        · exact hawake
        · exact absurd rfl (hafter.2 f)

theorem awake_wakeUps (H : List Moment) (n : Nat) :
    awake (H ++ List.replicate n .wakeUp) = (awake H || decide (0 < n)) := by
  induction n with
  | zero => simp
  | succ n ih => simp [List.replicate_succ', ← List.append_assoc, Moment.rouse]

/-! ### The history of a run -/

/-- The moments of as many wake-ups, one after the other. -/
def Scheduler.waking : Nat → Scheduler → List Moment
  | 0, _ => []
  | n + 1, s => .wakeUp :: (Event.ofFiring s.wake.1).map .event ++ waking n s.wake.2

namespace Future

/-- The moments of a poll.  The computation wakes itself while it is polled. -/
def pollMoments (d : UInt64) (f : Future α) : List Moment :=
  match f.state with
  | .running ps =>
    if f.scheduler = .cancelled then [.event (.fired ⟨d, .ready⟩)]
    else
      let p := ps.headD {}
      .event .polled :: f.scheduler.waking p.wakes ++
        match p.ends.result? with
        | some _ => [.event .dropped, .event (.fired ⟨d, .ready⟩)]
        | none => (Event.ofFiring ((f.scheduler.wakes p.wakes).2.store d).1).map .event
  | _ => [.event (.fired ⟨d, .ready⟩)]

/-- The moments of a step. -/
def moments (f : Future α) : Step → List Moment
  | .poll d => f.pollMoments d
  | .wake => if f.wakerKept then .wakeUp :: f.wake.1.map .event else []
  | .cancel => (f.happens .cancel).map .event
  | .complete => []
  | .free => (f.happens .free).map .event

/-- The moments of some steps, one after the other. -/
def history (f : Future α) : List Step → List Moment
  | [] => []
  | s :: ss => f.moments s ++ (f.next s).history ss

theorem history_snoc (f : Future α) (ss : List Step) (s : Step) :
    f.history (ss ++ [s]) = f.history ss ++ (f.after ss).moments s := by
  induction ss generalizing f with
  | nil => simp [history, after]
  | cons s ss ih => simp only [List.cons_append, history, ih, List.append_assoc]; rfl

end Future

/-- What is left of a history without the wake-ups. -/
def Moment.events (H : List Moment) : List Event :=
  H.filterMap fun
    | wakeUp => none
    | event e => some e

open Moment (events)

@[simp] theorem events_nil : events [] = [] := rfl

@[simp] theorem events_wakeUp (H : List Moment) : events (.wakeUp :: H) = events H := rfl

@[simp] theorem events_event (e : Event) (H : List Moment) :
    events (.event e :: H) = e :: events H := rfl

@[simp] theorem events_append (H H' : List Moment) : events (H ++ H') = events H ++ events H' :=
  List.filterMap_append

@[simp] theorem events_map (es : List Event) : events (es.map .event) = es := by
  induction es with
  | nil => rfl
  | cons e es ih => simp [ih]

@[simp] theorem Scheduler.events_waking (n : Nat) (s : Scheduler) :
    events (s.waking n) = (s.wakes n).1 := by
  induction n generalizing s with
  | zero => rfl
  | succ n ih => simp [waking, wakes, ih]

namespace Future

theorem events_poll (f : Future α) (d : UInt64) :
    events (f.pollMoments d) = (f.poll d).1 := by
  by_cases hc : f.scheduler = .cancelled
  · rw [poll_of_cancelled d hc]
    cases hs : f.state <;> simp [pollMoments, hs, hc]
  · cases hs : f.state with
    | complete r =>
      rw [poll_of_ready d hc (pollInner_complete hs)]
      simp [pollMoments, hs]
    | consumed =>
      rw [poll_of_ready d hc (pollInner_consumed hs)]
      simp [pollMoments, hs]
    | running ps =>
      cases he : (ps.headD {}).ends.result? with
      | none =>
        rw [poll_of_pending d hc (pollInner_pending hs he)]
        simp only [pollMoments, hs, he, if_neg hc]
        simp
      | some r =>
        rw [poll_of_ready d hc (pollInner_ends hs he)]
        simp only [pollMoments, hs, he, if_neg hc]
        simp

/-- **Without the wake-ups a history is the events of the run.** -/
theorem events_history (f : Future α) (ss : List Step) :
    events (f.history ss) = f.trace ss := by
  have hmoments : ∀ (f : Future α) (s : Step), events (f.moments s) = f.happens s := by
    intro f s
    cases s with
    | poll d => exact f.events_poll d
    | wake =>
      cases hk : f.wakerKept with
      | false => simp [moments, happens, hk]
      | true => simp [moments, happens, hk]
    | complete => rfl
    | cancel => exact events_map _
    | free => exact events_map _
  induction ss generalizing f with
  | nil => rfl
  | cons s ss ih => simp [history, trace, hmoments, ih]

end Future

/-! ### Every request for another poll has its wake-up -/

/-- Before every request for another poll somebody has woken the computation, after all earlier
calls of continuations. -/
def Earned (H : List Moment) : Prop := ∀ earlier d later,
  H = earlier ++ .event (.fired ⟨d, .maybeReady⟩) :: later → awake earlier = true

section Earned

variable {H : List Moment}

theorem earned_snoc {m : Moment} : Earned (H ++ [m]) ↔
    Earned H ∧ (m.asksAgain = true → awake H = true) := by
  constructor
  · intro h
    refine ⟨fun earlier d later hH => h earlier d (later ++ [m]) (by simp [hH]), ?_⟩
    intro hm
    cases m with
    | wakeUp => cases hm
    | event e =>
      rcases e with _ | _ | ⟨d, _ | _⟩
      · cases hm
      · cases hm
      · cases hm
      · exact h H d [] rfl
  · rintro ⟨h, hm⟩ earlier d later hH
    rcases snoc_eq_append_cons.1 hH with ⟨-, rfl, rfl⟩ | ⟨later, -, rfl⟩
    · exact hm rfl
    · exact h earlier d later rfl

theorem Earned.snoc (h : Earned H) {m : Moment} (hm : m.asksAgain = false) : Earned (H ++ [m]) :=
  earned_snoc.2 ⟨h, by simp [hm]⟩

theorem Earned.wakeUps (h : Earned H) (n : Nat) : Earned (H ++ List.replicate n .wakeUp) := by
  induction n with
  | zero => simpa using h
  | succ n ih =>
    rw [List.replicate_succ', ← List.append_assoc]
    exact ih.snoc rfl

/-- There are no more requests for another poll than wake-ups; and a wake-up that nobody has heard
of yet is one more. -/
theorem Earned.countP_le (h : Earned H) :
    H.countP Moment.asksAgain + (awake H).toNat ≤ H.count .wakeUp := by
  induction H using List.reverseRecOn with
  | nil => exact Nat.zero_le _
  | append_singleton H m ih =>
    obtain ⟨hH, hm⟩ := earned_snoc.1 h
    have ih := ih hH
    rcases m with _ | _ | _ | ⟨d, _ | _⟩
    · have := Bool.toNat_le (awake H)
      simp [Moment.asksAgain, Moment.rouse] at ih ⊢
      omega
    · simpa [Moment.asksAgain, Moment.rouse] using ih
    · simpa [Moment.asksAgain, Moment.rouse] using ih
    · simp [Moment.asksAgain, Moment.rouse] at ih ⊢
      omega
    · simp [Moment.asksAgain, Moment.rouse, hm rfl] at ih ⊢
      omega

theorem Earned.of_prefix (h : Earned H) {earlier : List Moment} (hp : earlier <+: H) :
    Earned earlier := by
  obtain ⟨rest, rfl⟩ := hp
  exact fun before d after he => h before d (after ++ rest) (by simp [he])

end Earned

end CallBoundary.Native
