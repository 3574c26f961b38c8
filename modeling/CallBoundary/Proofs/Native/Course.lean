import Mathlib.Data.List.Induction
import CallBoundary.Proofs.Native.Continuations

/-!
# The course of a future

Which events a step brings about and what it makes of a future depends on the future alone; the heap
and the zero value of its category show only in what is answered.  So a run of a future that is not
freed is told by `Future.after` and `Future.trace`, which the steps follow (`steps_course`), and what
is answered at some place of a run is what the future answers there (`reply_at`).  The polls of a run
are the continuations that it called and the one that its future owes (`balance_after`).
-/

namespace CallBoundary.Native

namespace FutureState

/-- What is left once the host has asked for the result. -/
def collected : FutureState α → FutureState α
  | complete _ => consumed
  | s => s

/-- The events of giving up what a state holds. -/
def dropping : FutureState α → List Event
  | running _ => [.dropped]
  | _ => []

end FutureState

namespace Future

/-- The future after a step. -/
def next (f : Future α) : Step → Future α
  | .poll d => (f.poll d).2
  | .wake => if f.wakerKept then f.wake.2 else f
  | .cancel => { f with state := .consumed, scheduler := .cancelled }
  | .complete => { f with state := f.state.collected }
  | .free => { f with state := .consumed }

/-- The events of a step. -/
def happens (f : Future α) : Step → List Event
  | .poll d => (f.poll d).1
  | .wake => if f.wakerKept then f.wake.1 else []
  | .cancel => Event.ofFiring f.scheduler.cancel.1 ++ f.state.dropping
  | .complete => []
  | .free => f.state.dropping

theorem next_wake (f : Future α) (hk : f.wakerKept = true) : f.next .wake = f.wake.2 := if_pos hk

theorem next_wake_of_none (f : Future α) (hk : f.wakerKept = false) : f.next .wake = f :=
  if_neg (by simp [hk])

/-- Wake-ups concern the scheduler only. -/
@[simp] theorem next_wake_state (f : Future α) : (f.next .wake).state = f.state := by
  cases hk : f.wakerKept with
  | false => rw [next_wake_of_none f hk]
  | true => rw [next_wake f hk]; rfl

/-- A computation can keep a waker while it is polled only. -/
theorem next_wakerKept (f : Future α) {s : Step} (hs : ∀ d, s ≠ .poll d) :
    (f.next s).wakerKept = f.wakerKept := by
  cases s with
  | poll d => exact absurd rfl (hs d)
  | wake =>
    cases hk : f.wakerKept with
    | false => rw [next_wake_of_none f hk, hk]
    | true => rw [next_wake f hk]; exact hk
  | _ => rfl

/-- The future after some steps. -/
def after (f : Future α) (ss : List Step) : Future α := ss.foldl next f

/-- The events of some steps, one after the other. -/
def trace (f : Future α) : List Step → List Event
  | [] => []
  | s :: ss => f.happens s ++ (f.next s).trace ss

theorem after_append (f : Future α) (ss ss' : List Step) :
    f.after (ss ++ ss') = (f.after ss).after ss' := List.foldl_append

@[simp] theorem after_snoc (f : Future α) (ss : List Step) (s : Step) :
    f.after (ss ++ [s]) = (f.after ss).next s := f.after_append ss [s]

theorem trace_append (f : Future α) (ss ss' : List Step) :
    f.trace (ss ++ ss') = f.trace ss ++ (f.after ss).trace ss' := by
  induction ss generalizing f with
  | nil => rfl
  | cons s ss ih => simp only [List.cons_append, trace, ih, List.append_assoc]; rfl

@[simp] theorem trace_snoc (f : Future α) (ss : List Step) (s : Step) :
    f.trace (ss ++ [s]) = f.trace ss ++ (f.after ss).happens s := by
  simp [trace_append, trace]

/-! ### The steps follow it -/

theorem release_events (s : FutureState α) (h : Heap) : (release s h).1 = s.dropping := by
  rcases s with ps | ⟨⟨b | m | text⟩ | a⟩ | _ <;> rfl

theorem free_eq (f : Future α) (h : Heap) :
    (f.free h).1 = (f.happens .free, f.next .free) := by
  have hr := release_events f.state h
  show ((release f.state h).1, _) = _
  rw [hr]
  rfl

theorem cancel_eq (f : Future α) (h : Heap) :
    (f.cancel h).1 = (f.happens .cancel, f.next .cancel) := by
  have hr := release_events f.state h
  have hs : f.scheduler.cancel.2 = .cancelled := by cases f.scheduler <;> rfl
  show (Event.ofFiring f.scheduler.cancel.1 ++ (release f.state h).1,
    { f with state := .consumed, scheduler := f.scheduler.cancel.2 }) = _
  rw [hr, hs]
  rfl

theorem complete_next (zero : α) (f : Future α) (s : Status) (h : Heap) :
    (f.complete zero s h).1.2 = f.next .complete := by
  unfold complete next FutureState.collected
  rcases f with ⟨_ | _ | _, _, _⟩ <;> rfl

end Future

namespace FutureRun

variable (zero : α) {f : Future α} {s : Step} {ss before after : List Step}

theorem step_course (hs : s ≠ .free) (h : Heap) :
    (step zero ⟨f, false⟩ s h).1.2 = ⟨f.next s, false⟩ ∧
      (step zero ⟨f, false⟩ s h).1.1.2 = f.happens s := by
  cases s with
  | poll d => exact ⟨rfl, rfl⟩
  | wake =>
    cases hk : f.wakerKept with
    | false => simp [step_wake_of_none zero f h hk, Future.next, Future.happens, hk]
    | true => simp [step_wake zero f h hk, Future.next, Future.happens, hk]
  | cancel =>
    rw [step_cancel, f.cancel_eq]
    exact ⟨rfl, rfl⟩
  | complete =>
    rw [step_complete, f.complete_next]
    exact ⟨rfl, rfl⟩
  | free => exact absurd rfl hs

/-- Some steps, and then others. -/
theorem steps_append (r : FutureRun α) (ss ss' : List Step) (h : Heap) :
    steps zero r (ss ++ ss') h =
      let first := r.steps zero ss h
      let others := steps zero first.1.2 ss' first.2
      ((first.1.1 ++ others.1.1, others.1.2), others.2) := by
  induction ss generalizing r h with
  | nil => rfl
  | cons s ss ih =>
    simp only [List.cons_append, steps_cons, ih]

theorem steps_snoc (r : FutureRun α) (ss : List Step) (s : Step) (h : Heap) :
    steps zero r (ss ++ [s]) h =
      let first := r.steps zero ss h
      let last := first.1.2.step zero s first.2
      ((first.1.1 ++ [last.1.1], last.1.2), last.2) := steps_append zero r ss [s] h

theorem length_replies (r : FutureRun α) (ss : List Step) (h : Heap) :
    (r.steps zero ss h).1.1.length = ss.length := by
  induction ss generalizing r h with
  | nil => rfl
  | cons s ss ih => simp [steps_cons, ih]

/-- **The steps of a run follow the course of its future** as long as nobody frees it. -/
theorem steps_course (unfreed : .free ∉ ss) (h : Heap) :
    (steps zero ⟨f, false⟩ ss h).1.2 = ⟨f.after ss, false⟩ ∧
      eventsOf (steps zero ⟨f, false⟩ ss h).1.1 = f.trace ss := by
  induction ss generalizing f h with
  | nil => exact ⟨rfl, rfl⟩
  | cons s ss ih =>
    obtain ⟨hs, hss⟩ := not_or.1 (mt List.mem_cons.2 unfreed)
    obtain ⟨hnext, hevents⟩ := step_course zero (f := f) (Ne.symm hs) h
    obtain ⟨hafter, htrace⟩ := ih (f := f.next s) hss (step zero ⟨f, false⟩ s h).2
    simp only [steps_cons, eventsOf, List.flatMap_cons, Future.trace, hnext, hevents] at htrace ⊢
    exact ⟨hafter, congrArg _ htrace⟩

/-- The last step of a run, told by the course of its future. -/
theorem steps_snoc_course (unfreed : .free ∉ ss) (s : Step) (h : Heap) :
    steps zero ⟨f, false⟩ (ss ++ [s]) h =
      let first := steps zero ⟨f, false⟩ ss h
      let last := step zero ⟨f.after ss, false⟩ s first.2
      ((first.1.1 ++ [last.1.1], last.1.2), last.2) := by
  rw [steps_snoc]
  simp only [(steps_course zero unfreed h).1]

/-- What is answered to a step of a run. -/
theorem reply_of_step (r : FutureRun α) (before : List Step) (s : Step) (after : List Step)
    (h : Heap) : (r.steps zero (before ++ s :: after) h).1.1[before.length]? =
      some ((r.steps zero before h).1.2.step zero s (r.steps zero before h).2).1.1 := by
  have hlen := length_replies zero r before h
  simp only [steps_append, steps_cons]
  simp [hlen]

/-- What is answered after some steps of a run of a future that is not freed. -/
theorem reply_at (f : Future α) {before : List Step} (unfreed : .free ∉ before) (s : Step)
    (after : List Step) (h : Heap) : (steps zero ⟨f, false⟩ (before ++ s :: after) h).1.1[before.length]? =
      some (step zero ⟨f.after before, false⟩ s (steps zero ⟨f, false⟩ before h).2).1.1 := by
  rw [reply_of_step, (steps_course zero unfreed h).1]

/-- **The balance of a run**, told by its course: the polls are the continuations called and the one
that is owed. -/
theorem balance_after (polls : List (InnerPoll α)) (unfreed : .free ∉ ss) (h : Heap) :
    (polled ss).Perm (called (eventsOf ((new polls).steps zero ss h).1.1) ++
      ((Future.new polls).after ss).scheduler.owed) := by
  have hcourse := (steps_course zero (f := .new polls) unfreed h).1
  have hbalance := (new polls).steps_balance zero ss h
  unfold new at hbalance ⊢
  rw [hcourse] at hbalance
  exact hbalance

/-- Nobody waits once the continuations of all polls were called. -/
theorem not_waiting_of_answered {polls : List (InnerPoll α)} (unfreed : .free ∉ ss) {h : Heap}
    (answered : (polled ss).Perm (called (eventsOf ((new polls).steps zero ss h).1.1)))
    (d : UInt64) : ((Future.new polls).after ss).scheduler ≠ .waiting d := by
  intro hs
  have hlen := (balance_after zero polls unfreed h).length_eq
  simp [answered.length_eq, hs, Scheduler.owed] at hlen

end FutureRun

end CallBoundary.Native
