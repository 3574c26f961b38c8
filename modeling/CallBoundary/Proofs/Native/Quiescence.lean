import CallBoundary.Proofs.Native.Lifetime
import CallBoundary.Proofs.Native.Readiness

/-!
# Futures that have come to rest

A cancelled future stays as it is, whatever is done to it (`Future.next_of_cancelled`): polls are
answered with readiness at once, requests for the result are refused, and wake-ups and cancels do
nothing.  A future that is freed while no continuation waits is silent from then on; after a cancel
none does, and none does after an answer with readiness if the host has polled only when the
continuations of all earlier polls were called (`quiet_at_last`).
-/

namespace CallBoundary.Native

/-! ### Cancelled futures -/

namespace Future

section Cancelled

variable {f : Future α} (gone : f.state = .consumed) (hc : f.scheduler = .cancelled)

include gone hc

/-- **No step changes a cancelled future.** -/
theorem next_of_cancelled (s : Step) : f.next s = f := by
  cases s with
  | poll d => exact next_poll (by simp [gone]) d
  | wake =>
    cases hk : f.wakerKept with
    | false => exact f.next_wake_of_none hk
    | true =>
      rw [f.next_wake hk, wake, hc]
      simp only [Scheduler.wake, ← hc]
  | cancel => simp only [next, ← gone, ← hc]
  | complete =>
    have hcollected : f.state.collected = f.state := by rw [gone]; rfl
    simp only [next, hcollected]
  | free => simp only [next, ← gone]

/-- Only a poll is answered, and with readiness. -/
theorem happens_of_cancelled (s : Step) :
    f.happens s = match s with
      | .poll d => [.fired ⟨d, .ready⟩]
      | _ => [] := by
  cases s with
  | poll d => exact congrArg Prod.fst (poll_of_cancelled d hc)
  | wake => simp [happens, wake, hc, Scheduler.wake, Event.ofFiring]
  | cancel => simp [happens, hc, gone, Scheduler.cancel, Event.ofFiring, FutureState.dropping]
  | complete => rfl
  | free => simp [happens, gone, FutureState.dropping]

omit hc in
/-- There is nothing left to give up. -/
theorem cancel_heap (h : Heap) : (f.cancel h).2 = h := by
  show (release f.state h).2 = h
  rw [gone]
  rfl

end Cancelled

/-! ### Futures for which nobody waits -/

section Idle

variable {f : Future α} (idle : ∀ d, f.scheduler ≠ .waiting d)

include idle

theorem happens_wake_of_idle : f.happens .wake = [] := by
  cases hk : f.wakerKept with
  | false => simp [happens, hk]
  | true =>
    cases hs : f.scheduler with
    | waiting d => exact absurd hs (idle d)
    | _ => simp [happens, hk, wake, hs, Scheduler.wake, Event.ofFiring]

theorem next_wake_of_idle (d : UInt64) : (f.next .wake).scheduler ≠ .waiting d := by
  cases hk : f.wakerKept with
  | false => rw [f.next_wake_of_none hk]; exact idle d
  | true => rw [f.next_wake hk]; exact Scheduler.wake_ne_waiting _ d

/-- However often such a future is woken, nobody waits. -/
theorem after_wakes_of_idle (i : Nat) (d : UInt64) :
    (f.after (List.replicate i .wake)).scheduler ≠ .waiting d := by
  induction i generalizing d with
  | zero => exact idle d
  | succ i ih =>
    rw [List.replicate_succ', after_snoc]
    exact next_wake_of_idle ih d

end Idle

end Future

namespace FutureRun

section Rest

variable (zero : α) {polls : List (InnerPoll α)} {ss before after : List Step} {n : Nat} {s : Step}

/-- What a cancelled future answers before it is freed. -/
theorem reply_of_cancelled (hc : .cancel ∈ before) (h : Heap) :
    let reply := (step zero ⟨(Future.new polls).after before, false⟩ s h).1.1.1
    (∀ d, s = .poll d → reply = .done) ∧ (s = .cancel → reply = .done) ∧
      (s = .complete → ∃ b : Buffer, reply = .result zero (.ofPanic b) ∧
        b.contents = textBytes (some "Future result already consumed or cancelled")) := by
  intro reply
  refine ⟨?_, ?_, ?_⟩
  · rintro d rfl
    rfl
  · rintro rfl
    rfl
  · rintro rfl
    have htells := tells_complete zero ((Future.new polls).after before) h
    rwa [Future.consumed_after _ (.inl hc)] at htells

/-- Nobody waits after an answer with readiness, if the host polls only when nobody does. -/
theorem idle_of_ready (unfreed : .free ∉ ss) (h : Heap)
    (patient : ∀ before d after, ss = before ++ .poll d :: after →
      (polled before).Perm (called (eventsOf ((new polls).steps zero before h).1.1)))
    {e : UInt64} (ready : ⟨e, .ready⟩ ∈ firings (eventsOf ((new polls).steps zero ss h).1.1))
    (d : UInt64) : ((Future.new polls).after ss).scheduler ≠ .waiting d := by
  intro hwaits
  have htrace : eventsOf ((new polls).steps zero ss h).1.1 = _ := (steps_course zero unfreed h).2
  rw [htrace] at ready
  have hover : ¬ Unresolved polls ss := fun hu => not_ready_of_unresolved unfreed hu ready
  obtain ⟨before, e', after, r, rfl, -, hbefore, -⟩ :=
    (overtaken_iff zero unfreed).2 ⟨hover, hwaits⟩
  have unfreed' : .free ∉ before := fun hb => unfreed (List.mem_append_left _ hb)
  exact not_waiting_of_answered zero unfreed' (patient before e' after rfl) d
    ((waits_iff zero unfreed').1 hbefore)

/-- A future that is freed while nobody waits is silent. -/
theorem silent_when_freed (unfreed : .free ∉ ss) (h : Heap)
    (idle : ∀ d, ((Future.new polls).after ss).scheduler ≠ .waiting d) {i : Nat} (hi : i < n) :
    ∃ reply, ((new polls).steps zero (toTheEnd ss n) h).1.1[ss.length + 1 + i]? =
      some (reply, []) := by
  have hrun : toTheEnd ss n =
      (ss ++ .free :: List.replicate i .wake) ++ .wake :: List.replicate (n - i - 1) .wake := by
    have hn : n = i + (n - i - 1 + 1) := by omega
    rw [toTheEnd, hn, List.replicate_add, List.replicate_succ]
    simp
  obtain ⟨reply, hreply, -⟩ := follows_next zero (.new polls) unfreed hrun h
  have hidle : ∀ d, ((Future.new polls).after (ss ++ .free :: List.replicate i .wake)).scheduler ≠
      .waiting d := by
    rw [Future.after_append]
    exact Future.after_wakes_of_idle (f := ((Future.new polls).after ss).next .free) idle i
  have hlen : (ss ++ .free :: List.replicate i Step.wake).length = ss.length + 1 + i := by
    simp
    omega
  rw [hlen, Future.happens_wake_of_idle hidle] at hreply
  exact ⟨reply, hreply⟩

end Rest

/-- **A future that was cancelled is at rest, and so is one that was freed when nobody waited.**  Once
the host has cancelled, no continuation waits and nothing changes the future any more: each poll is
answered with readiness at once and leaves the computation alone, wake-ups do nothing, each request
for the result gets a panic and the zero value, and further cancels do nothing at all.  If the host
frees the future after a cancel, or after an answer with readiness in a run in which it polled only
when all earlier polls were answered, no wake-up after that calls anybody. -/
theorem quiet_at_last (zero : α) (polls : List (InnerPoll α)) (ss : List Step) (n : Nat) (h : Heap)
    (unfreed : .free ∉ ss) :
    let run := fun ss => (new polls).steps zero ss h
    let out := run (toTheEnd ss n)
    (∀ before after, toTheEnd ss n = before ++ after → .cancel ∈ before →
      ∀ d, (run before).1.2.future.scheduler ≠ .waiting d) ∧
    (∀ before s after, toTheEnd ss n = before ++ s :: after → .cancel ∈ before →
      (run (before ++ [s])).1.2.future = (run before).1.2.future ∧
      ∃ reply es, out.1.1[before.length]? = some (reply, es) ∧
        (∀ d, s = .poll d → reply = .done ∧ es = [.fired ⟨d, .ready⟩]) ∧
        (s = .wake → es = []) ∧
        (s = .complete → es = [] ∧ ∃ b : Buffer, reply = .result zero (.ofPanic b) ∧
          b.contents = textBytes (some "Future result already consumed or cancelled")) ∧
        (s = .cancel → reply = .done ∧ es = [] ∧ (run (before ++ [s])).1.2 = (run before).1.2 ∧
          (run (before ++ [s])).2 = (run before).2)) ∧
    (.cancel ∈ ss ∨
        (∀ before d after, ss = before ++ .poll d :: after →
          (polled before).Perm (called (eventsOf (run before).1.1))) ∧
        (∃ e, ⟨e, .ready⟩ ∈ firings (eventsOf (run ss).1.1)) →
      ∀ i < n, ∃ reply, out.1.1[ss.length + 1 + i]? = some (reply, [])) := by
  intro run out
  refine ⟨?_, ?_, ?_⟩
  · intro before after hrun hc d
    have hnow : (run before).1.2 = _ := (follows_so_far zero (.new polls) unfreed hrun h).1
    simp [hnow, cancelled_after _ hc]
  · intro before s after hrun hc
    let f := (Future.new polls).after before
    have gone : f.state = .consumed := Future.consumed_after _ (.inl hc)
    have hscheduler : f.scheduler = .cancelled := cancelled_after _ hc
    have hsame : (Future.new polls).after (before ++ [s]) = f :=
      (Future.after_snoc ..).trans (f.next_of_cancelled gone hscheduler s)
    have hrun' : toTheEnd ss n = (before ++ [s]) ++ after := by simp [hrun]
    have hnow : (run before).1.2 = _ := (follows_so_far zero (.new polls) unfreed hrun h).1
    have hnext : (run (before ++ [s])).1.2 = _ :=
      (follows_so_far zero (.new polls) unfreed hrun' h).1
    obtain ⟨reply, hreply, hstep⟩ := follows_next zero (.new polls) unfreed hrun h
    have hlive : s ≠ .wake → .free ∉ before := fun hs hfree => hs (wake_of_freed unfreed hrun hfree)
    obtain ⟨hpoll, hcancel, hcomplete⟩ := reply_of_cancelled zero (s := s) hc (run before).2
    refine ⟨by rw [hnow, hnext, hsame], reply, _, hreply, ?_, ?_, ?_, ?_⟩
    · rintro d rfl
      rw [hstep (hlive (by simp))]
      exact ⟨hpoll d rfl, f.happens_of_cancelled gone hscheduler _⟩
    · rintro rfl
      exact f.happens_of_cancelled gone hscheduler _
    · rintro rfl
      rw [hstep (hlive (by simp))]
      exact ⟨rfl, hcomplete rfl⟩
    · rintro rfl
      rw [hstep (hlive (by simp))]
      refine ⟨hcancel rfl, f.happens_of_cancelled gone hscheduler _, ?_, ?_⟩
      · rw [hnow, hnext, hsame]
        simp [f]
      · have hlast := congrArg Prod.snd (steps_snoc zero (new polls) before .cancel h)
        have hfree : decide (Step.free ∈ before) = false := decide_eq_false (hlive (by simp))
        refine hlast.trans ?_
        show (step zero (run before).1.2 .cancel (run before).2).2 = _
        rw [hnow, hfree, step_cancel]
        exact f.cancel_heap gone _
  · intro hquiet i hi
    refine silent_when_freed zero unfreed h ?_ hi
    rcases hquiet with hc | ⟨patient, e, ready⟩
    · simp [cancelled_after _ hc]
    · exact idle_of_ready zero unfreed h patient ready

/-- A future is cancelled twice while a continuation waits, polled, asked for its result and freed. -/
theorem quiet_at_last_cancelled :
    let polls : List (InnerPoll Nat) := [{ keeps := true }]
    let ss : List Step := [.poll 1, .cancel, .cancel, .poll 2, .complete]
    let run := fun ss => (new polls).steps 0 ss {}
    let out := run (toTheEnd ss 2)
    .free ∉ ss ∧ (∃ reply, out.1.1[3]? = some (reply, [.fired ⟨2, .ready⟩])) ∧
      (run [.poll 1, .cancel, .cancel]).2 = (run [.poll 1, .cancel]).2 ∧
      ∃ reply, out.1.1[7]? = some (reply, []) := by
  intro polls ss run out
  have unfreed : Step.free ∉ ss := by decide
  obtain ⟨-, rests, silent⟩ := quiet_at_last 0 polls ss 2 {} unfreed
  obtain ⟨-, reply, es, hreply, hpoll, -⟩ :=
    rests [.poll 1, .cancel, .cancel] (.poll 2) _ rfl (by decide)
  obtain ⟨-, _, _, -, -, -, -, hcancel⟩ := rests [.poll 1, .cancel] .cancel _ rfl (by decide)
  exact ⟨unfreed, ⟨reply, (hpoll 2 rfl).2 ▸ hreply⟩, (hcancel rfl).2.2.2,
    silent (.inl (by decide)) 1 (by decide)⟩

end FutureRun

end CallBoundary.Native
