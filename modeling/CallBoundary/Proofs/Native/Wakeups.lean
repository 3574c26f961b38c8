import CallBoundary.Proofs.Native.History

/-!
# Wake-ups

If the host polls only when no continuation waits, the scheduler of a future that is neither over nor
cancelled tells whether somebody has woken the computation since a continuation was last called
(`rests_after`).  So a poll that finds the computation pending is answered at once if so, and by the
next wake-up if not, and every request for another poll has a wake-up of its own
(`wakeups_answered`).
-/

namespace CallBoundary.Native

open Moment (events)

/-! ### What the scheduler remembers -/

theorem Scheduler.Free.waking {s : Scheduler} (hs : s.Free) (n : Nat) :
    s.waking n = List.replicate n .wakeUp ∧ (s.wakes n).2 = if n = 0 then s else .woken := by
  induction n generalizing s with
  | zero => exact ⟨rfl, rfl⟩
  | succ n ih =>
    obtain ⟨hmoments, hlast⟩ := ih (s := .woken) (.inr rfl)
    simp [Scheduler.waking, Scheduler.wakes, hs.wake, hmoments, hlast, List.replicate_succ,
      Event.ofFiring]

/-- The scheduler knows whether somebody has woken the computation since a continuation was last
called; a continuation waits only if not. -/
def Rests (H : List Moment) : Scheduler → Prop
  | .idle => awake H = false
  | .woken => awake H = true
  | .waiting _ => awake H = false
  | .cancelled => False

section Polling

variable {polls : List (InnerPoll α)} {H : List Moment} {f : Future α} {s : Scheduler} {n : Nat}
  (d : UInt64)

theorem pollMoments_of_endOf_none (hs : f.state = .running (polls.drop n))
    (hc : f.scheduler ≠ .cancelled) (he : endOf polls n = none) :
    let w := (polls.getD n {}).wakes
    f.pollMoments d = .event .polled :: f.scheduler.waking w ++
      (Event.ofFiring ((f.scheduler.wakes w).2.store d).1).map .event := by
  have he : (polls.getD n {}).ends.result? = none := he
  simp only [Future.pollMoments, hs, headD_drop, he, if_neg hc]

theorem pollMoments_of_endOf_some (hs : f.state = .running (polls.drop n))
    (hc : f.scheduler ≠ .cancelled) {r : Except Fault α} (he : endOf polls n = some r) :
    f.pollMoments d = .event .polled :: f.scheduler.waking (polls.getD n {}).wakes ++
      [.event .dropped, .event (.fired ⟨d, .ready⟩)] := by
  have he : (polls.getD n {}).ends.result? = some r := he
  simp only [Future.pollMoments, hs, headD_drop, he, if_neg hc]

/-- What a scheduler that was at rest does for a poll, after as many wake-ups. -/
theorem Rests.store (hr : Rests H s) (hfree : s.Free) (w : Nat) :
    (s.wakes w).2.store d =
      if 0 < w ∨ awake H = true then (some ⟨d, .maybeReady⟩, .idle) else (none, .waiting d) := by
  rw [(hfree.waking w).2]
  rcases hfree with rfl | rfl
  · have ha : awake H = false := hr
    cases w with
    | zero => simp [ha, Scheduler.store]
    | succ w => simp [Scheduler.store]
  · have ha : awake H = true := hr
    simp [ha, Scheduler.store]

/-- A poll finds the computation pending while nobody waits. -/
theorem poll_pending (hs : f.state = .running (polls.drop n)) (he : endOf polls n = none)
    (hfree : f.scheduler.Free) (hr : Rests H f.scheduler) :
    let p := polls.getD n {}
    let woken := 0 < p.wakes ∨ awake H = true
    let answer : List Event := if woken then [.fired ⟨d, .maybeReady⟩] else []
    f.poll d = (.polled :: answer, ⟨.running (polls.drop (n + 1)),
        if woken then .idle else .waiting d, f.wakerKept || p.keeps⟩) ∧
      f.pollMoments d =
        .event .polled :: List.replicate p.wakes .wakeUp ++ answer.map .event := by
  intro p woken answer
  rw [Future.poll_of_endOf_none hs hfree.ne_cancelled he d,
    pollMoments_of_endOf_none d hs hfree.ne_cancelled he, (hfree.waking _).1, (hfree.wakes _).1,
    hr.store d hfree]
  by_cases hw : woken
  · have hw' : 0 < (polls.getD n {}).wakes ∨ awake H = true := hw
    simp only [answer, if_pos hw, if_pos hw', Event.ofFiring]
    exact ⟨rfl, rfl⟩
  · have hw' : ¬ (0 < (polls.getD n {}).wakes ∨ awake H = true) := hw
    simp only [answer, if_neg hw, if_neg hw', Event.ofFiring]
    exact ⟨rfl, rfl⟩

end Polling

/-! ### Steps and runs -/

/-- What is known after steps of which each poll came when nobody waited. -/
structure Roused (polls : List (InnerPoll α)) (ss : List Step) (f : Future α) (H : List Moment) :
    Prop where
  rests : Unresolved polls ss → Rests H f.scheduler
  free : ¬ Unresolved polls ss → f.scheduler.Free
  earned : Earned H

section Runs

variable {polls : List (InnerPoll α)} {ss : List Step} {f : Future α} {H : List Moment}
  {s : Scheduler}

theorem Rests.free (hr : Rests H s) (hw : ∀ e, s ≠ .waiting e) : s.Free := by
  cases s with
  | idle => exact .inl rfl
  | woken => exact .inr rfl
  | waiting e => exact absurd rfl (hw e)
  | cancelled => exact hr.elim

theorem Rests.wake (hr : Rests H s) :
    Rests (H ++ .wakeUp :: (Event.ofFiring s.wake.1).map .event) s.wake.2 := by
  cases s with
  | cancelled => exact hr.elim
  | waiting d =>
    show awake (H ++ ([.wakeUp] ++ [.event (.fired ⟨d, .maybeReady⟩)])) = false
    rw [← List.append_assoc, awake_snoc]
    rfl
  | _ => exact awake_snoc H .wakeUp

theorem Earned.wake (h : Earned H) (s : Scheduler) :
    Earned (H ++ .wakeUp :: (Event.ofFiring s.wake.1).map .event) := by
  have hwake := h.wakeUps 1
  cases s with
  | waiting d =>
    show Earned (H ++ ([.wakeUp] ++ [.event (.fired ⟨d, .maybeReady⟩)]))
    rw [← List.append_assoc]
    exact earned_snoc.2 ⟨hwake, fun _ => awake_snoc H .wakeUp⟩
  | _ => exact hwake

section Poll

variable (ro : Roused polls ss f H) (unfreed : .free ∉ ss) (d : UInt64)

include ro unfreed

/-- A poll of a future that is not running. -/
theorem Roused.poll_over (hu : ¬ Unresolved polls ss) (hs : ∀ ps, f.state ≠ .running ps) :
    Roused polls (ss ++ [.poll d]) (f.next (.poll d)) (H ++ f.moments (.poll d)) := by
  have hmoments : f.moments (.poll d) = [.event (.fired ⟨d, .ready⟩)] := by
    cases hf : f.state with
    | running ps => exact absurd hf (hs ps)
    | _ => simp [Future.moments, Future.pollMoments, hf]
  rw [hmoments, Future.next_poll hs d]
  exact ⟨fun h => absurd ((unresolved_snoc unfreed).1 h).1 hu, fun _ => ro.free hu,
    ro.earned.snoc rfl⟩

section Running

variable (hs : f.state = .running (polls.drop (polled ss).length)) (hfree : f.scheduler.Free)

include hs hfree

/-- A poll that sees the computation end.  Its wake-ups reach nobody. -/
theorem Roused.poll_ends {r : Except Fault α} (he : endOf polls (polled ss).length = some r) :
    Roused polls (ss ++ [.poll d]) (f.next (.poll d)) (H ++ f.moments (.poll d)) := by
  have hc := hfree.ne_cancelled
  have hmoments : f.moments (.poll d) = _ := pollMoments_of_endOf_some d hs hc he
  have hnext : f.next (.poll d) = _ := congrArg Prod.snd (Future.poll_of_endOf_some hs hc he d)
  rw [hmoments, hnext, (hfree.waking _).1]
  refine ⟨fun h => ?_, fun _ => (hfree.wakes _).2, ?_⟩
  · have hnone := ((unresolved_snoc unfreed).1 h).2.2 d rfl
    rw [hnone] at he
    cases he
  · have hwoken := (ro.earned.snoc (m := .event .polled) rfl).wakeUps
      (polls.getD (polled ss).length {}).wakes
    have hended := (hwoken.snoc (m := .event .dropped) rfl).snoc
      (m := .event (.fired ⟨d, .ready⟩)) rfl
    simpa using hended

/-- A poll that finds the computation pending. -/
theorem Roused.poll_pending (hu : Unresolved polls ss)
    (he : endOf polls (polled ss).length = none) :
    Roused polls (ss ++ [.poll d]) (f.next (.poll d)) (H ++ f.moments (.poll d)) := by
  obtain ⟨hpoll, hmoments⟩ := Native.poll_pending d hs he hfree (ro.rests hu)
  have hu' : Unresolved polls (ss ++ [.poll d]) :=
    (unresolved_snoc unfreed).2 ⟨hu, nofun, fun _ _ => he⟩
  have hnext : f.next (.poll d) = _ := congrArg Prod.snd hpoll
  rw [hnext, show f.moments (.poll d) = _ from hmoments]
  generalize (polls.getD (polled ss).length {}).wakes = w
  by_cases hwoken : 0 < w ∨ awake H = true
  · -- somebody has woken the computation, and the poll is answered
    have hsplit : H ++ (.event .polled :: List.replicate w .wakeUp ++
        [.event (.fired ⟨d, .maybeReady⟩)]) = H ++ [.event .polled] ++
          List.replicate w .wakeUp ++ [.event (.fired ⟨d, .maybeReady⟩)] := by simp
    simp only [if_pos hwoken, List.map_cons, List.map_nil, hsplit]
    have hearned := (ro.earned.snoc (m := .event .polled) rfl).wakeUps w
    refine ⟨fun _ => awake_snoc _ _, fun h => absurd hu' h, earned_snoc.2 ⟨hearned, fun _ => ?_⟩⟩
    rw [awake_wakeUps, awake_snoc]
    simpa [Moment.rouse, or_comm] using hwoken
  · -- nobody has, and its continuation waits
    obtain ⟨hzero, ha⟩ := not_or.1 hwoken
    have hzero := Nat.eq_zero_of_not_pos hzero
    simp only [if_neg hwoken]
    simp only [hzero, List.map_nil, List.replicate_zero, List.append_nil]
    refine ⟨fun _ => ?_, fun h => absurd hu' h, ro.earned.snoc rfl⟩
    exact (awake_snoc _ _).trans (by simpa [Moment.rouse] using ha)

end Running

/-- A poll that comes when nobody waits. -/
theorem Roused.poll (st : Stands polls ss f) (idle : ∀ e, f.scheduler ≠ .waiting e) :
    Roused polls (ss ++ [.poll d]) (f.next (.poll d)) (H ++ f.moments (.poll d)) := by
  cases st with
  | complete hr hs _ =>
    exact ro.poll_over unfreed d (hr.not_unresolved unfreed) (by simp [hs])
  | consumed hu _ hs => exact ro.poll_over unfreed d hu (by simp [hs])
  | running hu hs _ =>
    have hfree := (ro.rests hu).free idle
    cases he : endOf polls (polled ss).length with
    | some r => exact ro.poll_ends unfreed d hs hfree he
    | none => exact ro.poll_pending unfreed d hs hfree hu he

end Poll

/-- **One step** of such a run. -/
theorem Roused.step (ro : Roused polls ss f H) (st : Stands polls ss f) (unfreed : .free ∉ ss)
    {s : Step} (hf : s ≠ .free) (hc : s ≠ .cancel)
    (idle : ∀ d, s = .poll d → ∀ e, f.scheduler ≠ .waiting e) :
    Roused polls (ss ++ [s]) (f.next s) (H ++ f.moments s) := by
  have hu : (∀ d, s ≠ .poll d) → (Unresolved polls (ss ++ [s]) ↔ Unresolved polls ss) := by
    intro hp
    rw [unresolved_snoc unfreed]
    exact ⟨fun h => h.1, fun h => ⟨h, hc, fun d hd => absurd hd (hp d)⟩⟩
  cases s with
  | free => exact absurd rfl hf
  | cancel => exact absurd rfl hc
  | poll d => exact ro.poll unfreed d st (idle d rfl)
  | complete =>
    have hmoments : f.moments .complete = [] := rfl
    rw [hmoments, List.append_nil]
    exact ⟨fun h => ro.rests ((hu (by simp)).1 h), fun h => ro.free (mt (hu (by simp)).2 h), ro.earned⟩
  | wake =>
    cases hk : f.wakerKept with
    | false =>
      rw [f.next_wake_of_none hk]
      simp only [Future.moments, hk, Bool.false_eq_true, if_false, List.append_nil]
      exact ⟨fun h => ro.rests ((hu (by simp)).1 h), fun h => ro.free (mt (hu (by simp)).2 h), ro.earned⟩
    | true =>
      rw [f.next_wake hk]
      simp only [Future.moments, hk, if_true]
      refine ⟨fun h => (ro.rests ((hu (by simp)).1 h)).wake, fun h => ?_, ro.earned.wake _⟩
      have := (ro.free (mt (hu (by simp)).2 h)).wake
      exact .inr (congrArg Prod.snd this)

/-- **A run** of which each poll comes when nobody waits. -/
theorem rests_after (unfreed : .free ∉ ss) (uncancelled : .cancel ∉ ss)
    (idle : ∀ before d after, ss = before ++ .poll d :: after →
      ∀ e, ((Future.new polls).after before).scheduler ≠ .waiting e) :
    Roused polls ss ((Future.new polls).after ss) ((Future.new polls).history ss) := by
  induction ss using List.reverseRecOn with
  | nil =>
    refine ⟨fun _ => rfl, fun _ => .inl rfl, ?_⟩
    intro earlier d later hH
    simp [Future.history] at hH
  | append_singleton ss s ih =>
    simp only [List.mem_append, List.mem_singleton, not_or] at unfreed uncancelled
    have ro := ih unfreed.1 uncancelled.1
      (fun before d after hss => idle before d (after ++ [s]) (by simp [hss]))
    rw [Future.after_snoc, Future.history_snoc]
    exact ro.step (stands_after polls unfreed.1) unfreed.1 (Ne.symm unfreed.2)
      (Ne.symm uncancelled.2) (fun d hd => idle ss d [] (by rw [hd]))

/-- While a continuation waits nothing changes before the next wake-up, for a host that polls when
nobody waits and does not cancel. -/
theorem after_quiet {d : UInt64} {quiet : List Step} {ps : List (InnerPoll α)}
    (hs : f.state = .running ps) (hw : f.scheduler = .waiting d) (unfreed : .free ∉ quiet)
    (uncancelled : .cancel ∉ quiet) (unwoken : .wake ∉ quiet)
    (idle : ∀ before e after, quiet = before ++ .poll e :: after →
      (f.after before).scheduler ≠ .waiting d) :
    f.after quiet = f := by
  induction quiet with
  | nil => rfl
  | cons s quiet ih =>
    simp only [List.mem_cons, not_or] at unfreed uncancelled unwoken
    cases s with
    | poll e => exact absurd hw (idle [] e quiet rfl)
    | wake => exact absurd rfl unwoken.1
    | cancel => exact absurd rfl uncancelled.1
    | free => exact absurd rfl unfreed.1
    | complete =>
      have hskip : ∀ ss, f.after (.complete :: ss) = f.after ss := by
        intro ss
        show (f.next .complete).after ss = _
        rw [Future.next_complete hs]
      rw [hskip]
      refine ih unfreed.2 uncancelled.2 unwoken.2 (fun before e after hq => ?_)
      rw [← hskip]
      exact idle (.complete :: before) e after (by rw [hq]; rfl)

/-- A future has a waker if some poll of its computation has kept one. -/
theorem wakerKept_eq_false (unfreed : .free ∉ ss) (hu : Unresolved polls ss) :
    ((Future.new polls).after ss).wakerKept = false ↔
      ∀ i < (polled ss).length, (polls.getD i {}).keeps = false := by
  induction ss using List.reverseRecOn with
  | nil => simp [Future.after, Future.new]
  | append_singleton ss s ih =>
    simp only [List.mem_append, List.mem_singleton, not_or] at unfreed
    obtain ⟨hu₀, -, hend⟩ := (unresolved_snoc unfreed.1).1 hu
    rw [Future.after_snoc, polled_append unfreed.1]
    cases s with
    | poll d =>
      obtain ⟨hs, hc⟩ := (stands_after polls unfreed.1).running_of_unresolved unfreed.1 hu₀
      have hnext : (((Future.new polls).after ss).next (.poll d)).wakerKept = _ :=
        congrArg (·.2.wakerKept) (Future.poll_of_endOf_none hs hc (hend d rfl) d)
      rw [hnext, Bool.or_eq_false_iff, ih unfreed.1 hu₀]
      simp only [polled_poll, polled_nil, List.length_append, List.length_singleton, Nat.forall_lt_succ_right]
    | _ =>
      rw [Future.next_wakerKept _ (fun _ h => by cases h), ih unfreed.1 hu₀]
      simp

end Runs

/-! ### The answers to the polls -/

namespace FutureRun

section Answers

variable (zero : α) {polls : List (InnerPoll α)} {before : List Step} {d : UInt64}

/-- A poll that finds the computation pending while nobody waits is answered at once, if somebody
has woken the computation. -/
theorem pending_answered (after : List Step) (h : Heap) (unfreed : .free ∉ before)
    (hu : Unresolved polls (before ++ [.poll d]))
    (ro : Roused polls before ((Future.new polls).after before) ((Future.new polls).history before))
    (idle : ∀ e, ((Future.new polls).after before).scheduler ≠ .waiting e) :
    let woken := 0 < (polls.getD (polled before).length {}).wakes ∨
      awake ((Future.new polls).history before) = true
    ((new polls).steps zero (before ++ .poll d :: after) h).1.1[before.length]? =
        some (.done, .polled :: if woken then [.fired ⟨d, .maybeReady⟩] else []) ∧
      ∃ ps, ((Future.new polls).after (before ++ [.poll d])).state = .running ps ∧
        ((Future.new polls).after (before ++ [.poll d])).scheduler =
          if woken then .idle else .waiting d := by
  intro woken
  obtain ⟨hu, -, hend⟩ := (unresolved_snoc unfreed).1 hu
  have hreply := reply_at zero (.new polls) unfreed (.poll d) after h
  obtain ⟨hs, -⟩ := (stands_after polls unfreed).running_of_unresolved unfreed hu
  have hrests := ro.rests hu
  obtain ⟨hpoll, -⟩ := poll_pending d hs (hend d rfl) (hrests.free idle) hrests
  rw [step_poll, hpoll] at hreply
  have hnext : (Future.new polls).after (before ++ [.poll d]) = _ :=
    (Future.after_snoc ..).trans (congrArg Prod.snd hpoll)
  exact ⟨hreply, _, by rw [hnext], by rw [hnext]⟩

/-- A continuation that waits is called inside the next wake-up, unless nobody has a waker to wake
the computation with. -/
theorem next_wake_answers {quiet : List Step} (rest : List Step) (h : Heap)
    {ps : List (InnerPoll α)} (unfreed : .free ∉ before ++ quiet) (uncancelled : .cancel ∉ quiet)
    (unwoken : .wake ∉ quiet) (hu : Unresolved polls before)
    (hs : ((Future.new polls).after before).state = .running ps)
    (hw : ((Future.new polls).after before).scheduler = .waiting d)
    (idle : ∀ quiet' e rest', quiet = quiet' ++ .poll e :: rest' →
      ((Future.new polls).after (before ++ quiet')).scheduler ≠ .waiting d) :
    let reply := ((new polls).steps zero (before ++ quiet ++ .wake :: rest) h).1.1[
      (before ++ quiet).length]?
    reply = some (.done, [.fired ⟨d, .maybeReady⟩]) ∨
      reply = some (.noWaker, []) ∧
        ∀ i < (polled before).length, (polls.getD i {}).keeps = false := by
  intro reply
  have hreply : reply = _ := reply_at zero (.new polls) unfreed .wake rest h
  obtain ⟨unfreed, unfreed'⟩ := not_or.1 (mt List.mem_append.2 unfreed)
  have hquiet : (Future.new polls).after (before ++ quiet) = (Future.new polls).after before := by
    rw [Future.after_append]
    refine after_quiet hs hw unfreed' uncancelled unwoken (fun quiet' e rest' hq => ?_)
    rw [← Future.after_append]
    exact idle quiet' e rest' hq
  rw [hquiet] at hreply
  cases hk : ((Future.new polls).after before).wakerKept with
  | true =>
    left
    rw [hreply, step_wake zero _ _ hk]
    simp [Future.wake, hw, Scheduler.wake, Event.ofFiring]
  | false =>
    right
    rw [hreply, step_wake_of_none zero _ _ hk]
    exact ⟨rfl, (wakerKept_eq_false unfreed hu).1 hk⟩

end Answers

/-- **No wake-up is lost and none is invented.**  The host does not cancel, and polls only when the
continuations of all earlier polls were called.  Whenever a poll finds the computation pending, its
continuation is called at once if the computation woke itself meanwhile or somebody has woken it
since a continuation was last called, and inside the next wake-up if not; there is no next wake-up
only if no poll of the computation has kept a waker.  And at any moment of the run there were no more
requests for another poll than wake-ups: before each there is a wake-up that came after all earlier
calls of continuations. -/
theorem wakeups_answered (zero : α) (polls : List (InnerPoll α)) (ss : List Step) (h : Heap)
    (unfreed : .free ∉ ss) (uncancelled : .cancel ∉ ss)
    (patient : ∀ before d after, ss = before ++ .poll d :: after →
      (polled before).Perm (called (eventsOf ((new polls).steps zero before h).1.1))) :
    let out := (new polls).steps zero ss h
    let history := (Future.new polls).history
    events (history ss) = eventsOf out.1.1 ∧
    (∀ before d after, ss = before ++ .poll d :: after → Unresolved polls (before ++ [.poll d]) →
      let woken := 0 < (polls.getD (polled before).length {}).wakes ∨ awake (history before) = true
      ∃ es, out.1.1[before.length]? = some (.done, es) ∧
        (woken → firings es = [⟨d, .maybeReady⟩]) ∧
        (¬ woken → firings es = [] ∧
          ∀ quiet rest, after = quiet ++ .wake :: rest → .wake ∉ quiet →
            let reply := out.1.1[(before ++ .poll d :: quiet).length]?
            reply = some (.done, [.fired ⟨d, .maybeReady⟩]) ∨
              reply = some (.noWaker, []) ∧
                ∀ i ≤ (polled before).length, (polls.getD i {}).keeps = false)) ∧
    (∀ earlier d later, history ss = earlier ++ .event (.fired ⟨d, .maybeReady⟩) :: later →
      ∃ before after, earlier = before ++ .wakeUp :: after ∧
        ∀ f, Moment.event (.fired f) ∉ after) ∧
    ∀ earlier, earlier <+: history ss →
      earlier.countP Moment.asksAgain ≤ earlier.count .wakeUp := by
  intro out history
  have idle : ∀ before d after, ss = before ++ .poll d :: after →
      ∀ e, ((Future.new polls).after before).scheduler ≠ .waiting e := by
    intro before d after hss
    have unfreed' : .free ∉ before := fun hb => unfreed (by simp [hss, hb])
    exact not_waiting_of_answered zero unfreed' (patient before d after hss)
  have hearned := (rests_after unfreed uncancelled idle).earned
  refine ⟨?_, ?_, ?_, ?_⟩
  · rw [Future.events_history]
    exact (steps_course zero unfreed h).2.symm
  · rintro before d after rfl hu woken
    simp only [List.mem_append, List.mem_cons, not_or] at unfreed uncancelled
    have ro := rests_after unfreed.1 uncancelled.1
      (fun before' e after' hb => idle before' e (after' ++ .poll d :: after) (by simp [hb]))
    obtain ⟨hreply, ps, hs, hw⟩ := pending_answered zero after h unfreed.1 hu ro
      (idle before d after rfl)
    refine ⟨_, hreply, fun hyes => by rw [if_pos hyes]; rfl, fun hno => ?_⟩
    refine ⟨by rw [if_neg hno]; rfl, ?_⟩
    rintro quiet rest rfl unwoken
    simp only [List.mem_append, List.mem_cons, not_or] at unfreed uncancelled
    rw [if_neg hno] at hw
    have hquiet : .free ∉ before ++ [.poll d] ++ quiet := by simp [unfreed]
    have hnext := next_wake_answers zero rest h hquiet uncancelled.2.2.1 unwoken hu hs hw ?_
    · simpa [polled_append unfreed.1, Nat.lt_succ_iff] using hnext
    · intro quiet' e rest' hq
      exact idle (before ++ [.poll d] ++ quiet') e (rest' ++ .wake :: rest) (by simp [hq]) d
  · exact fun earlier d later hH => awake_iff.1 (hearned earlier d later hH)
  · intro earlier hp
    have := (hearned.of_prefix hp).countP_le
    omega

/-- The first poll is answered by the next wake-up, and the second by one that came meanwhile. -/
theorem wakeups_answered_twice :
    let polls : List (InnerPoll Nat) := [{ keeps := true }, { wakes := 1 }]
    let ss : List Step := [.poll 1, .complete, .wake, .poll 2]
    let out := (new polls).steps 0 ss {}
    .free ∉ ss ∧ .cancel ∉ ss ∧
    (∀ before d after, ss = before ++ .poll d :: after →
      (polled before).Perm (called (eventsOf ((new polls).steps 0 before {}).1.1))) ∧
    out.1.1[2]? = some (.done, [.fired ⟨1, .maybeReady⟩]) ∧
    ∃ es, out.1.1[3]? = some (.done, es) ∧ firings es = [⟨2, .maybeReady⟩] := by
  intro polls ss out
  have unfreed : Step.free ∉ ss := by decide
  have uncancelled : Step.cancel ∉ ss := by decide
  have patient : ∀ before d after, ss = before ++ .poll d :: after →
      (polled before).Perm (called (eventsOf ((new polls).steps 0 before {}).1.1)) := by
    intro before d after hss
    rcases before with _ | ⟨s₁, _ | ⟨s₂, _ | ⟨s₃, _ | ⟨s₄, before⟩⟩⟩⟩
    · exact .refl _
    · simp [ss] at hss
    · simp [ss] at hss
    · obtain ⟨rfl, rfl, rfl, -⟩ : .poll 1 = s₁ ∧ .complete = s₂ ∧ .wake = s₃ ∧ _ := by
        simpa [ss] using hss
      exact .refl _
    · simp [ss] at hss
  have hpending : ∀ i < 2, endOf polls i = none := by decide
  obtain ⟨-, answers, -⟩ := wakeups_answered 0 polls ss {} unfreed uncancelled patient
  obtain ⟨_, -, -, hwaits⟩ := answers [] 1 _ rfl
    ⟨by decide, fun i hi => hpending i (Nat.lt_succ_of_lt hi)⟩
  obtain ⟨es, hes, hcalled, -⟩ := answers [.poll 1, .complete, .wake] 2 [] rfl ⟨by decide, hpending⟩
  refine ⟨unfreed, uncancelled, patient, ?_, es, hes, hcalled (.inl (by decide))⟩
  refine ((hwaits (by decide)).2 [.complete] [.poll 2] rfl (by decide)).resolve_right ?_
  intro hnone
  cases hnone.2 0 (Nat.le_refl 0)

end FutureRun

end CallBoundary.Native
