import CallBoundary.Proofs.Native.Wakeups

/-!
# Readiness

A poll that sees the computation end is answered at once, whatever the scheduler keeps.  So the
continuation of an earlier poll that still waits then is passed over, and only a wake-up or a cancel
reaches it later: it is `Overtaken`.  Nothing else is left behind once some poll has been answered
with readiness (`ready_answers_unless_overtaken`).
-/

namespace CallBoundary.Native

/-- All continuations of the polls among these steps were called but this one. -/
def Waits (polls : List (InnerPoll α)) (ss : List Step) (d : UInt64) : Prop :=
  (polled ss).Perm (d :: called ((Future.new polls).trace ss))

/-- A poll made while this continuation waited saw the computation end, which did not wake itself
meanwhile; and after that nobody has cancelled, or woken the computation with a waker. -/
def Overtaken (polls : List (InnerPoll α)) (ss : List Step) (d : UInt64) : Prop :=
  ∃ before e after r, ss = before ++ .poll e :: after ∧ Sees polls before r ∧
    Waits polls before d ∧ (polls.getD (polled before).length {}).wakes = 0 ∧ .cancel ∉ after ∧
    (.wake ∈ after → ∀ i ≤ (polled before).length, (polls.getD i {}).keeps = false)

/-! ### Who waits -/

theorem Scheduler.wake_ne_waiting (s : Scheduler) (d : UInt64) : s.wake.2 ≠ .waiting d := by
  cases s <;> simp [wake]

theorem Scheduler.wakes_succ_ne_waiting (n : Nat) (s : Scheduler) (d : UInt64) :
    (s.wakes (n + 1)).2 ≠ .waiting d := by
  induction n generalizing s with
  | zero => exact s.wake_ne_waiting d
  | succ n ih => exact ih s.wake.2

theorem Scheduler.wakes_eq_waiting {s : Scheduler} {n : Nat} {d : UInt64} :
    (s.wakes n).2 = .waiting d ↔ s = .waiting d ∧ n = 0 := by
  cases n with
  | zero => simp [wakes]
  | succ n => simp [wakes_succ_ne_waiting]

section Waiting

variable {polls : List (InnerPoll α)} {ss : List Step} {d : UInt64} {f : Future α}

theorem waits_iff (zero : α) (unfreed : .free ∉ ss) :
    Waits polls ss d ↔ ((Future.new polls).after ss).scheduler = .waiting d := by
  have htrace : eventsOf ((FutureRun.new polls).steps zero ss {}).1.1 = _ :=
    (FutureRun.steps_course zero unfreed {}).2
  have hbalance := FutureRun.balance_after zero polls unfreed {}
  rw [htrace] at hbalance
  rw [← Scheduler.mem_owed]
  constructor
  · intro hw
    have hlast := (List.perm_append_singleton d (called ((Future.new polls).trace ss))).symm
    have howed := (List.perm_append_left_iff _).1 ((hbalance.symm.trans hw).trans hlast)
    exact howed.mem_iff.2 (List.mem_singleton.2 rfl)
  · intro hd
    rw [Scheduler.mem_owed] at hd
    rw [hd] at hbalance
    exact hbalance.trans List.perm_append_comm

/-- Once a computation is over, a continuation waits as long as nobody cancels or wakes it. -/
theorem after_over (hs : ∀ ps, f.state ≠ .running ps) (unfreed : .free ∉ ss) :
    (f.after ss).scheduler = .waiting d ↔
      f.scheduler = .waiting d ∧ .cancel ∉ ss ∧ (.wake ∈ ss → f.wakerKept = false) := by
  induction ss generalizing f with
  | nil => simp [Future.after]
  | cons s ss ih =>
    simp only [List.mem_cons, not_or] at unfreed
    show ((f.next s).after ss).scheduler = _ ↔ _
    cases s with
    | free => exact absurd rfl unfreed.1
    | poll e =>
      rw [Future.next_poll hs e, ih hs unfreed.2]
      simp
    | cancel =>
      rw [ih (by simp [Future.next]) unfreed.2]
      simp [Future.next]
    | complete =>
      have hs' : ∀ ps, (f.next .complete).state ≠ .running ps := by
        intro ps
        cases hf : f.state with
        | running ps' => exact absurd hf (hs ps')
        | _ => simp [Future.next, hf, FutureState.collected]
      rw [ih hs' unfreed.2]
      simp [Future.next]
    | wake =>
      cases hk : f.wakerKept with
      | false =>
        rw [f.next_wake_of_none hk, ih hs unfreed.2]
        simp [hk]
      | true =>
        rw [f.next_wake hk, ih (by simpa [Future.wake] using hs) unfreed.2]
        simp [Future.wake, Scheduler.wake_ne_waiting]

/-- Nothing comes after a cancel. -/
theorem cancelled_after (f : Future α) (hc : .cancel ∈ ss) :
    (f.after ss).scheduler = .cancelled := by
  induction ss using List.reverseRecOn with
  | nil => simp at hc
  | append_singleton ss s ih =>
    rw [Future.after_snoc]
    rcases List.mem_append.1 hc with hc | hc
    · have hg := ih hc
      cases s with
      | poll e => exact (congrArg (·.2.scheduler) (Future.poll_of_cancelled e hg)).trans hg
      | wake =>
        cases hk : (f.after ss).wakerKept with
        | false => rwa [Future.next_wake_of_none _ hk]
        | true => simp [Future.next_wake _ hk, Future.wake, hg, Scheduler.wake]
      | cancel => rfl
      | complete => exact hg
      | free => exact hg
    · rw [← List.mem_singleton.1 hc]
      rfl

/-- Of a computation that is over and was not cancelled, some poll has seen the end. -/
theorem exists_sees (unfreed : .free ∉ ss) (uncancelled : .cancel ∉ ss)
    (hover : ¬ Unresolved polls ss) :
    ∃ before e after r, ss = before ++ .poll e :: after ∧ Sees polls before r := by
  induction ss using List.reverseRecOn with
  | nil => exact absurd ⟨uncancelled, by simp⟩ hover
  | append_singleton ss s ih =>
    simp only [List.mem_append, List.mem_singleton, not_or] at unfreed uncancelled
    by_cases hu : Unresolved polls ss
    · rw [unresolved_snoc unfreed.1] at hover
      cases s with
      | poll e =>
        cases he : endOf polls (polled ss).length with
        | none => exact absurd ⟨hu, nofun, fun _ _ => he⟩ hover
        | some r => exact ⟨ss, e, [], r, rfl, hu, he⟩
      | cancel => exact absurd rfl uncancelled.2
      | _ => exact absurd ⟨hu, nofun, nofun⟩ hover
    · obtain ⟨before, e, after, r, rfl, hsees⟩ := ih unfreed.1 uncancelled.1 hu
      exact ⟨before, e, after ++ [s], r, by simp, hsees⟩

/-- **Who waits once the computation is over** was overtaken. -/
theorem overtaken_iff (zero : α) (unfreed : .free ∉ ss) : Overtaken polls ss d ↔
    ¬ Unresolved polls ss ∧ ((Future.new polls).after ss).scheduler = .waiting d := by
  -- what the poll that sees the end leaves, and what the steps after it make of that
  have hafter : ∀ before e after r, ss = before ++ .poll e :: after → Sees polls before r →
      (((Future.new polls).after ss).scheduler = .waiting d ↔ Waits polls before d ∧
        (polls.getD (polled before).length {}).wakes = 0 ∧ .cancel ∉ after ∧
        (.wake ∈ after → ∀ i ≤ (polled before).length, (polls.getD i {}).keeps = false)) := by
    rintro before e after r rfl ⟨hu, he⟩
    simp only [List.mem_append, List.mem_cons, not_or] at unfreed
    let f := (Future.new polls).after before
    obtain ⟨hs, hc⟩ := (stands_after polls unfreed.1).running_of_unresolved unfreed.1 hu
    have hnext : f.next (.poll e) = _ := congrArg Prod.snd (Future.poll_of_endOf_some hs hc he e)
    have hrest : (Future.new polls).after (before ++ .poll e :: after) =
        (f.next (.poll e)).after after := Future.after_append ..
    have hkept := wakerKept_eq_false unfreed.1 hu
    rw [hrest, hnext, after_over (fun _ h => by cases h) unfreed.2.2, Scheduler.wakes_eq_waiting,
      waits_iff zero unfreed.1, Bool.or_eq_false_iff, hkept, ← Nat.forall_lt_succ_right]
    simp only [Nat.lt_succ_iff, and_assoc]
  constructor
  · rintro ⟨before, e, after, r, hss, hsees, hwaits⟩
    refine ⟨?_, (hafter before e after r hss hsees).2 hwaits⟩
    rw [hss] at unfreed ⊢
    exact not_unresolved_of_sees (fun h => unfreed (List.mem_append_left _ h)) hsees
  · rintro ⟨hover, hw⟩
    have uncancelled : .cancel ∉ ss := by
      intro hc
      rw [cancelled_after _ hc] at hw
      cases hw
    obtain ⟨before, e, after, r, hss, hsees⟩ := exists_sees unfreed uncancelled hover
    exact ⟨before, e, after, r, hss, hsees, (hafter before e after r hss hsees).1 hw⟩

/-! ### Answers with readiness -/

/-- A poll that finds the computation pending has nobody told that it is ready, nor has a wake-up. -/
theorem not_ready_of_unresolved (unfreed : .free ∉ ss) (hu : Unresolved polls ss) :
    ⟨d, .ready⟩ ∉ firings ((Future.new polls).trace ss) := by
  have hwake : ∀ s : Scheduler, s ≠ .cancelled → ⟨d, .ready⟩ ∉ firings (Event.ofFiring s.wake.1) := by
    intro s hs
    cases s <;> simp_all [Scheduler.wake]
  have hwakes : ∀ (n : Nat) (s : Scheduler), s ≠ .cancelled →
      ⟨d, .ready⟩ ∉ firings (s.wakes n).1 := by
    intro n
    induction n with
    | zero => exact fun s _ => by simp [Scheduler.wakes, firings]
    | succ n ih =>
      intro s hs
      simp only [Scheduler.wakes, firings_append, List.mem_append, not_or]
      exact ⟨hwake s hs, ih _ (Scheduler.wake_ne_cancelled hs)⟩
  induction ss using List.reverseRecOn with
  | nil => simp [Future.trace, firings]
  | append_singleton ss s ih =>
    simp only [List.mem_append, List.mem_singleton, not_or] at unfreed
    obtain ⟨hu, hcancel, hend⟩ := (unresolved_snoc unfreed.1).1 hu
    obtain ⟨hs, hc⟩ := (stands_after polls unfreed.1).running_of_unresolved unfreed.1 hu
    rw [Future.trace_snoc, firings_append, List.mem_append, not_or]
    refine ⟨ih unfreed.1 hu, ?_⟩
    cases s with
    | free => exact absurd rfl unfreed.2
    | cancel => exact absurd rfl hcancel
    | complete => simp [Future.happens, firings]
    | wake =>
      cases hk : ((Future.new polls).after ss).wakerKept with
      | false => simp [Future.happens, hk, firings]
      | true => simpa [Future.happens, hk, Future.wake] using hwake _ hc
    | poll e =>
      have hpoll : ((Future.new polls).after ss).happens (.poll e) = _ :=
        congrArg Prod.fst (Future.poll_of_endOf_none hs hc (hend e rfl) e)
      have hc' := Scheduler.wakes_ne_cancelled hc (polls.getD (polled ss).length {}).wakes
      have hstore : ∀ s : Scheduler, s ≠ .cancelled →
          ⟨d, .ready⟩ ∉ firings (Event.ofFiring (s.store e).1) := by
        intro s hs
        cases s <;> simp_all [Scheduler.store]
      rw [hpoll, firings_append, List.mem_append, not_or]
      exact ⟨hwakes _ _ hc, hstore _ hc'⟩

end Waiting

namespace FutureRun

/-- **Readiness answers everyone but who was overtaken.**  Once some poll of a future that is not
freed has been answered with readiness, the continuation of every poll made so far was called once,
unless one of them was overtaken; that one was not called, and all others were. -/
theorem ready_answers_unless_overtaken (zero : α) (polls : List (InnerPoll α)) (ss : List Step)
    (h : Heap) (unfreed : .free ∉ ss) {e : UInt64}
    (ready : ⟨e, .ready⟩ ∈ firings (eventsOf ((new polls).steps zero ss h).1.1)) :
    let done := called (eventsOf ((new polls).steps zero ss h).1.1)
    ((polled ss).Perm done ↔ ∀ d, ¬ Overtaken polls ss d) ∧
      ∀ d, Overtaken polls ss d → (polled ss).Perm (d :: done) := by
  intro done
  have htrace : eventsOf ((new polls).steps zero ss h).1.1 = (Future.new polls).trace ss :=
    (steps_course zero unfreed h).2
  have hbalance : (polled ss).Perm (done ++ _) := balance_after zero polls unfreed h
  have hover : ¬ Unresolved polls ss := by
    intro hu
    rw [htrace] at ready
    exact not_ready_of_unresolved unfreed hu ready
  have hwaits : ∀ d, Overtaken polls ss d → (polled ss).Perm (d :: done) := by
    intro d hd
    have hw := (waits_iff zero unfreed).2 ((overtaken_iff zero unfreed).1 hd).2
    simpa only [Waits, ← htrace] using hw
  refine ⟨⟨fun hdone d hd => ?_, fun hnone => ?_⟩, hwaits⟩
  · have hlen := (hdone.symm.trans (hwaits d hd)).length_eq
    simp at hlen
  · have howed : ((Future.new polls).after ss).scheduler.owed = [] := by
      refine List.eq_nil_iff_forall_not_mem.2 (fun d hd => hnone d ?_)
      exact (overtaken_iff zero unfreed).2 ⟨hover, Scheduler.mem_owed.1 hd⟩
    rwa [howed, List.append_nil] at hbalance

/-- Two polls overlap, and the second sees the end after the computation has woken itself. -/
theorem ready_answers_overlap :
    let polls : List (InnerPoll Nat) := [{}, { wakes := 1, ends := .resolved (.ok 7) }]
    let ss : List Step := [.poll 1, .poll 2]
    let done := called (eventsOf ((new polls).steps 0 ss {}).1.1)
    .free ∉ ss ∧ ⟨2, .ready⟩ ∈ firings (eventsOf ((new polls).steps 0 ss {}).1.1) ∧
      (polled ss).Perm done := by
  intro polls ss done
  have unfreed : Step.free ∉ ss := by decide
  have ready : ⟨2, .ready⟩ ∈ firings (eventsOf ((new polls).steps 0 ss {}).1.1) := by decide
  refine ⟨unfreed, ready, (ready_answers_unless_overtaken 0 polls ss {} unfreed ready).1.2 ?_⟩
  rintro d ⟨before, e, after, r, hss, hsees, -, hwakes, -⟩
  rcases before with _ | ⟨s₁, _ | ⟨s₂, before⟩⟩
  · cases hsees.2
  · obtain ⟨rfl, -⟩ : .poll 1 = s₁ ∧ _ := by simpa [ss] using hss
    cases hwakes
  · simp [ss] at hss

/-- Two polls overlap, and the second sees the end: the continuation of the first is not called. -/
theorem overtaken_not_called :
    let polls : List (InnerPoll Nat) := [{}, { ends := .resolved (.ok 7) }]
    let ss : List Step := [.poll 1, .poll 2]
    let out := (new polls).steps 0 ss {}
    ⟨2, .ready⟩ ∈ firings (eventsOf out.1.1) ∧ 1 ∈ polled ss ∧
      1 ∉ called (eventsOf out.1.1) ∧ out.1.2.future.scheduler = .waiting 1 := by
  decide

end FutureRun

end CallBoundary.Native
