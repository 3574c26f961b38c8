import Mathlib.Data.List.Nodup
import Mathlib.Data.List.Perm.Subperm
import CallBoundary.Proofs.Native.Steps

/-!
# The continuations of a native future

The continuation of a poll is called once, or it is the one that the scheduler keeps.  This rests on
a balance that every step leaves as it is: the polls made so far are, up to order, the continuations
called so far and the one that is owed (`steps_balance`).  The other three states of the scheduler
owe nothing.
-/

namespace CallBoundary.Native

/-- The continuation that waits for a wake-up, if one does. -/
def Scheduler.owed : Scheduler → List UInt64
  | waiting d => [d]
  | _ => []

theorem Scheduler.mem_owed {s : Scheduler} {d : UInt64} : d ∈ s.owed ↔ s = .waiting d := by
  cases s <;> simp [owed, eq_comm]

theorem Scheduler.length_owed (s : Scheduler) : s.owed.length ≤ 1 := by
  cases s <;> simp [owed]

/-- Which continuations are called among some events. -/
def called (es : List Event) : List UInt64 := (firings es).map (·.data)

theorem called_append (es es' : List Event) : called (es ++ es') = called es ++ called es' := by
  simp [called, firings_append]

@[simp] theorem called_ofFiring (f : Option Firing) :
    called (Event.ofFiring f) = f.toList.map (·.data) := by
  simp [called]

/-- The polls among some steps that the future is there to answer: those before it is freed. -/
def polled : List Step → List UInt64
  | [] => []
  | .poll d :: ss => d :: polled ss
  | .free :: _ => []
  | _ :: ss => polled ss

section Polled

variable (d : UInt64) (ss : List Step)

@[simp] theorem polled_nil : polled [] = [] := rfl

@[simp] theorem polled_poll : polled (.poll d :: ss) = d :: polled ss := rfl

@[simp] theorem polled_wake : polled (.wake :: ss) = polled ss := rfl

@[simp] theorem polled_cancel : polled (.cancel :: ss) = polled ss := rfl

@[simp] theorem polled_complete : polled (.complete :: ss) = polled ss := rfl

@[simp] theorem polled_free : polled (.free :: ss) = [] := rfl

end Polled

/-! ### The scheduler keeps the balance -/

namespace Scheduler

theorem store_balance (s : Scheduler) (d : UInt64) :
    s.owed ++ [d] = (s.store d).1.toList.map (·.data) ++ (s.store d).2.owed := by
  cases s <;> rfl

theorem wake_balance (s : Scheduler) :
    s.owed = s.wake.1.toList.map (·.data) ++ s.wake.2.owed := by
  cases s <;> rfl

theorem cancel_balance (s : Scheduler) :
    s.owed = s.cancel.1.toList.map (·.data) ++ s.cancel.2.owed := by
  cases s <;> rfl

theorem wakes_balance (n : Nat) (s : Scheduler) :
    s.owed = called (s.wakes n).1 ++ (s.wakes n).2.owed := by
  induction n generalizing s with
  | zero => rfl
  | succ n ih =>
    simp only [wakes, called_append, called_ofFiring, List.append_assoc, ← ih]
    exact s.wake_balance

end Scheduler

/-! ### The steps keep the balance -/

namespace Future

theorem pollInner_balance (f : Future α) :
    f.scheduler.owed = called f.pollInner.2.1 ++ f.pollInner.2.2.scheduler.owed := by
  cases hs : f.state with
  | complete r => rw [pollInner_complete hs]; rfl
  | consumed => rw [pollInner_consumed hs]; rfl
  | running ps =>
    have h := f.scheduler.wakes_balance (ps.headD {}).wakes
    cases he : (ps.headD {}).ends.result? with
    | none =>
      rw [pollInner_pending hs he]
      exact h
    | some r =>
      rw [pollInner_ends hs he]
      simpa [called, firings] using h

/-- A poll adds its own continuation to those called or owed. -/
theorem poll_balance (f : Future α) (d : UInt64) :
    (f.scheduler.owed ++ [d]).Perm (called (f.poll d).1 ++ (f.poll d).2.scheduler.owed) := by
  by_cases hc : f.scheduler = .cancelled
  · rw [poll_of_cancelled d hc, hc]
    exact .refl _
  · have h := f.pollInner_balance
    rcases hp : f.pollInner with ⟨ready, es, f'⟩
    rw [hp] at h
    cases ready with
    | true =>
      rw [poll_of_ready d hc hp, h, called_append, List.append_assoc, List.append_assoc]
      exact List.perm_append_comm.append_left _
    | false =>
      rw [poll_of_pending d hc hp, h, called_append, called_ofFiring, List.append_assoc,
        List.append_assoc]
      exact .of_eq (congrArg _ (f'.scheduler.store_balance d))

theorem wake_balance (f : Future α) :
    f.scheduler.owed = called f.wake.1 ++ f.wake.2.scheduler.owed := by
  simpa [wake] using f.scheduler.wake_balance

/-- What a state holds is given up without a continuation being called. -/
theorem called_release (s : FutureState α) (h : Heap) : called (release s h).1 = [] := by
  cases s with
  | running polls => rfl
  | consumed => rfl
  | complete r =>
    rcases r with f | a
    · cases f <;> rfl
    · rfl

theorem free_balance (f : Future α) (h : Heap) :
    f.scheduler.owed = called (f.free h).1.1 ++ (f.free h).1.2.scheduler.owed := by
  show _ = called (release f.state h).1 ++ f.scheduler.owed
  rw [called_release, List.nil_append]

theorem cancel_balance (f : Future α) (h : Heap) :
    f.scheduler.owed = called (f.cancel h).1.1 ++ (f.cancel h).1.2.scheduler.owed := by
  have hf := free_balance { f with scheduler := f.scheduler.cancel.2 } h
  show _ = called (Event.ofFiring f.scheduler.cancel.1 ++
    (free { f with scheduler := f.scheduler.cancel.2 } h).1.1) ++ _
  rw [called_append, called_ofFiring, List.append_assoc]
  exact f.scheduler.cancel_balance.trans (congrArg _ hf)

/-- Asking for the result leaves the scheduler alone. -/
theorem complete_scheduler (zero : α) (f : Future α) (s : Status) (h : Heap) :
    (f.complete zero s h).1.2.scheduler = f.scheduler := by
  unfold complete
  cases f.state <;> rfl

end Future

namespace FutureRun

/-- The polls among some steps that a future answers from here on. -/
def answers (r : FutureRun α) (ss : List Step) : List UInt64 := if r.freed then [] else polled ss

/-- One step adds the continuation of its poll, if it is one, to those called or owed. -/
theorem step_balance (zero : α) (r : FutureRun α) (s : Step) (ss : List Step) (h : Heap) :
    (r.future.scheduler.owed ++ r.answers (s :: ss)).Perm
      (called (r.step zero s h).1.1.2 ++ ((r.step zero s h).1.2.future.scheduler.owed ++
        (r.step zero s h).1.2.answers ss)) := by
  obtain ⟨f, freed⟩ := r
  by_cases hw : s = .wake
  · -- a waker outlives the future, so wake-ups are the same before and after it is freed
    subst hw
    have ha : answers ⟨f, freed⟩ (.wake :: ss) = answers ⟨f, freed⟩ ss := by cases freed <;> rfl
    cases hk : f.wakerKept with
    | false =>
      rw [step_wake_of_none zero f h hk, ha]
      exact .refl _
    | true =>
      rw [step_wake zero f h hk, ha, ← List.append_assoc, ← f.wake_balance]
      exact .refl _
  cases freed with
  | true =>
    rw [step_of_freed zero f h hw]
    exact .refl _
  | false =>
    cases s with
    | wake => exact absurd rfl hw
    | poll d =>
      have h := (f.poll_balance d).append_right (polled ss)
      rw [List.append_assoc, List.singleton_append, List.append_assoc] at h
      rw [step_poll]
      exact h
    | cancel =>
      rw [step_cancel, ← List.append_assoc, ← f.cancel_balance]
      exact .refl _
    | complete =>
      rw [step_complete, f.complete_scheduler]
      exact .refl _
    | free =>
      rw [step_free, ← List.append_assoc, ← f.free_balance]
      exact .refl _

/-- **The balance of a run**: what was owed and the polls made are what was called and is owed. -/
theorem steps_balance (zero : α) (ss : List Step) (r : FutureRun α) (h : Heap) :
    (r.future.scheduler.owed ++ r.answers ss).Perm
      (called (eventsOf (r.steps zero ss h).1.1) ++
        (r.steps zero ss h).1.2.future.scheduler.owed) := by
  induction ss generalizing r h with
  | nil =>
    have ha : r.answers [] = [] := by unfold answers; split <;> rfl
    rw [ha, List.append_nil]
    exact .refl _
  | cons s ss ih =>
    -- what is owed after the first step is what the others start with
    refine (r.step_balance zero s ss h).trans ?_
    rw [steps_cons]
    simp only [eventsOf, List.flatMap_cons, called_append, List.append_assoc]
    exact (ih (r.step zero s h).1.2 (r.step zero s h).2).append_left _

/-- **No continuation is lost and none is called twice.**  After any steps, if every poll came with
a continuation of its own, the continuation of each poll made before the future was freed was called
once, or it was not called and is the one that the scheduler keeps; and no other was called. -/
theorem called_or_waiting (zero : α) (polls : List (InnerPoll α)) (ss : List Step) (h : Heap)
    (distinct : (polled ss).Nodup) :
    let out := (new polls).steps zero ss h
    let done := called (eventsOf out.1.1)
    let scheduler := out.1.2.future.scheduler
    (∀ d ∈ polled ss, done.count d = 1 ∧ scheduler ≠ .waiting d ∨
      done.count d = 0 ∧ scheduler = .waiting d) ∧
    (∀ d, done.count d ≤ 1) ∧ (∀ d ∈ done, d ∈ polled ss) ∧
    ((polled ss).filter (· ∉ done)).length ≤ 1 := by
  intro out done scheduler
  have balance : (polled ss).Perm (done ++ scheduler.owed) := (new polls).steps_balance zero ss h
  have nodup := balance.nodup_iff.1 distinct
  obtain ⟨once, -, apart⟩ := List.nodup_append.1 nodup
  refine ⟨?_, ?_, ?_, ?_⟩
  · intro d hd
    rcases List.mem_append.1 (balance.mem_iff.1 hd) with hc | ho
    · left
      refine ⟨List.count_eq_one_of_mem once hc, ?_⟩
      intro hs
      exact apart d hc d (Scheduler.mem_owed.2 hs) rfl
    · right
      refine ⟨List.count_eq_zero.2 ?_, Scheduler.mem_owed.1 ho⟩
      intro hc
      exact apart d hc d ho rfl
  · exact List.nodup_iff_count_le_one.1 once
  · intro d hd
    exact balance.mem_iff.2 (List.mem_append_left _ hd)
  · -- whoever is unanswered is owed an answer, and at most one is
    have hsub : ((polled ss).filter (· ∉ done)).Subperm scheduler.owed := by
      refine List.subperm_of_subset (distinct.filter _) ?_
      intro d hd
      obtain ⟨hd, hn⟩ := List.mem_filter.1 hd
      exact (List.mem_append.1 (balance.mem_iff.1 hd)).resolve_left (of_decide_eq_true hn)
    exact Nat.le_trans hsub.length_le scheduler.length_owed

/-- Two polls overlap while the computation wakes itself, panics and is woken after it was freed. -/
theorem called_or_waiting_overlap :
    let polls : List (InnerPoll Unit) := [{ keeps := true }, { wakes := 2, ends := .panicked none }]
    let ss : List Step := [.poll 7, .poll 8, .cancel, .poll 9, .complete, .free, .wake]
    let out := (new polls).steps () ss {}
    (polled ss).Nodup ∧ ∀ d ∈ polled ss, (called (eventsOf out.1.1)).count d = 1 ∧
        out.1.2.future.scheduler ≠ .waiting d ∨
      (called (eventsOf out.1.1)).count d = 0 ∧ out.1.2.future.scheduler = .waiting d :=
  ⟨by decide, (called_or_waiting () _
    [.poll 7, .poll 8, .cancel, .poll 9, .complete, .free, .wake] {} (by decide)).1⟩

end FutureRun

end CallBoundary.Native
