import CallBoundary.Native.Run

/-!
# What the steps of a run do

One equation for each kind of step of a `FutureRun`, apart from the heap, and the events of a whole
run in the order in which they happen.  A freed future answers wake-ups only: `step_of_freed`.
-/

namespace CallBoundary.Native

/-- The calls of continuations among some events. -/
def firings (es : List Event) : List Firing :=
  es.filterMap fun
    | .fired f => some f
    | _ => none

theorem firings_append (es es' : List Event) : firings (es ++ es') = firings es ++ firings es' :=
  List.filterMap_append ..

@[simp] theorem firings_ofFiring (f : Option Firing) : firings (Event.ofFiring f) = f.toList := by
  cases f <;> rfl

/-- The events of some steps, one after the other. -/
def eventsOf (replies : List (Reply α × List Event)) : List Event := replies.flatMap (·.2)

/-! ### Schedulers that owe nothing -/

namespace Scheduler

/-- Nobody waits, and nobody has cancelled. -/
def Free (s : Scheduler) : Prop := s = .idle ∨ s = .woken

theorem Free.ne_cancelled {s : Scheduler} (hs : s.Free) : s ≠ .cancelled := by
  rcases hs with rfl | rfl
  · nofun
  · nofun

theorem Free.ne_waiting {s : Scheduler} (hs : s.Free) (d : UInt64) : s ≠ .waiting d := by
  rcases hs with rfl | rfl
  · nofun
  · nofun

theorem Free.wake {s : Scheduler} (hs : s.Free) : s.wake = (none, .woken) := by
  rcases hs with rfl | rfl
  · rfl
  · rfl

/-- Wake-ups reach nobody while nobody waits. -/
theorem Free.wakes {s : Scheduler} (hs : s.Free) (n : Nat) :
    (s.wakes n).1 = [] ∧ (s.wakes n).2.Free := by
  induction n generalizing s with
  | zero => exact ⟨rfl, hs⟩
  | succ n ih =>
    obtain ⟨hevents, hfree⟩ := ih (s := .woken) (.inr rfl)
    simp only [Scheduler.wakes, hs.wake]
    refine ⟨?_, hfree⟩
    rw [hevents]
    rfl

end Scheduler

/-! ### Polling -/

namespace Future

variable {f : Future α}

theorem pollInner_complete {r : Except Fault α} (hs : f.state = .complete r) :
    f.pollInner = (true, [], f) := by
  rw [pollInner, hs]

theorem pollInner_consumed (hs : f.state = .consumed) : f.pollInner = (true, [], f) := by
  rw [pollInner, hs]

/-- A computation that stays pending may have woken itself. -/
theorem pollInner_pending {ps : List (InnerPoll α)} (hs : f.state = .running ps)
    (he : (ps.headD {}).ends.result? = none) :
    f.pollInner = (false, .polled :: (f.scheduler.wakes (ps.headD {}).wakes).1,
      ⟨.running ps.tail, (f.scheduler.wakes (ps.headD {}).wakes).2,
        f.wakerKept || (ps.headD {}).keeps⟩) := by
  simp only [pollInner, hs, he]

/-- A computation that comes to an end is dropped at once. -/
theorem pollInner_ends {ps : List (InnerPoll α)} (hs : f.state = .running ps)
    {r : Except Fault α} (he : (ps.headD {}).ends.result? = some r) :
    f.pollInner = (true, .polled :: ((f.scheduler.wakes (ps.headD {}).wakes).1 ++ [.dropped]),
      ⟨.complete r, (f.scheduler.wakes (ps.headD {}).wakes).2,
        f.wakerKept || (ps.headD {}).keeps⟩) := by
  simp only [pollInner, hs, he]

theorem poll_of_cancelled (d : UInt64) (hc : f.scheduler = .cancelled) :
    f.poll d = ([.fired ⟨d, .ready⟩], f) := by
  rw [poll, if_pos hc]

/-- A poll that finds the computation over is answered at once. -/
theorem poll_of_ready (d : UInt64) (hc : f.scheduler ≠ .cancelled) {es : List Event}
    {f' : Future α} (hp : f.pollInner = (true, es, f')) :
    f.poll d = (es ++ [.fired ⟨d, .ready⟩], f') := by
  simp only [poll, if_neg hc, hp, if_true]

/-- A poll that finds no computation is answered at once and changes nothing. -/
theorem poll_of_not_running (hs : ∀ ps, f.state ≠ .running ps) (d : UInt64) :
    f.poll d = ([.fired ⟨d, .ready⟩], f) := by
  have hinner : f.pollInner = (true, [], f) := by
    cases hf : f.state with
    | running ps => exact absurd hf (hs ps)
    | complete r => exact pollInner_complete hf
    | consumed => exact pollInner_consumed hf
  by_cases hc : f.scheduler = .cancelled
  · exact poll_of_cancelled d hc
  · exact poll_of_ready d hc hinner

/-- A poll that finds it pending leaves its continuation with the scheduler. -/
theorem poll_of_pending (d : UInt64) (hc : f.scheduler ≠ .cancelled) {es : List Event}
    {f' : Future α} (hp : f.pollInner = (false, es, f')) :
    f.poll d = (es ++ Event.ofFiring (f'.scheduler.store d).1,
      { f' with scheduler := (f'.scheduler.store d).2 }) := by
  simp only [poll, if_neg hc, hp, Bool.false_eq_true, if_false]

end Future

/-! ### Steps -/

namespace FutureRun

variable (zero : α) (f : Future α) (h : Heap)

/-- A live future is polled. -/
theorem step_poll (d : UInt64) : step zero ⟨f, false⟩ (.poll d) h =
    (((.done, (f.poll d).1), ⟨(f.poll d).2, false⟩), h) := rfl

/-- A future that has kept a waker is woken, freed or not. -/
theorem step_wake (hw : f.wakerKept = true) (freed : Bool) :
    step zero ⟨f, freed⟩ .wake h = (((.done, f.wake.1), ⟨f.wake.2, freed⟩), h) := by
  show (if f.wakerKept = true then _ else _ : StateM Heap _) h = _
  rw [if_pos hw]
  rfl

/-- Without a waker there is nothing to wake. -/
theorem step_wake_of_none (hw : f.wakerKept = false) (freed : Bool) :
    step zero ⟨f, freed⟩ .wake h = (((.noWaker, []), ⟨f, freed⟩), h) := by
  show (if f.wakerKept = true then _ else _ : StateM Heap _) h = _
  rw [if_neg (by simp [hw])]
  rfl

/-- A live future is cancelled. -/
theorem step_cancel : step zero ⟨f, false⟩ .cancel h =
    (((.done, (f.cancel h).1.1), ⟨(f.cancel h).1.2, false⟩), (f.cancel h).2) := rfl

/-- A live future is asked for its result. -/
theorem step_complete : step zero ⟨f, false⟩ .complete h =
    (((.result (f.complete zero {} h).1.1.1 (f.complete zero {} h).1.1.2, []),
      ⟨(f.complete zero {} h).1.2, false⟩), (f.complete zero {} h).2) := rfl

/-- A live future is freed. -/
theorem step_free : step zero ⟨f, false⟩ .free h =
    (((.done, (f.free h).1.1), ⟨(f.free h).1.2, true⟩), (f.free h).2) := rfl

/-- A freed future answers wake-ups only. -/
theorem step_of_freed {s : Step} (hs : s ≠ .wake) :
    step zero ⟨f, true⟩ s h = (((.alreadyFreed, []), ⟨f, true⟩), h) := by
  cases s with
  | wake => exact absurd rfl hs
  | poll d => rfl
  | cancel => rfl
  | complete => rfl
  | free => rfl

/-- The first of some steps, and then the others. -/
theorem steps_cons (r : FutureRun α) (s : Step) (ss : List Step) :
    steps zero r (s :: ss) h =
      let first := r.step zero s h
      let others := steps zero first.1.2 ss first.2
      ((first.1.1 :: others.1.1, others.1.2), others.2) := rfl

end FutureRun

end CallBoundary.Native
