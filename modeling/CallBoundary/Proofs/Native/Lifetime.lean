import CallBoundary.Proofs.Native.Handover

/-!
# The life of a computation

A computation `Lives` until a poll sees it end or the host gives it up, by cancelling or freeing the
future.  While it lives every poll of the future polls it once, the step that ends its life
(`EndedBy`) drops it, and after that nothing touches it (`treats`).  So over a run to the end
(`toTheEnd`), in which the host frees the future and wakers go on waking it, the computation is
dropped once and is not polled afterwards (`polled_while_it_lives`).
-/

namespace CallBoundary.Native

/-! ### Runs to the end -/

/-- Some steps, after which the host frees the future and it is woken so many times more. -/
def toTheEnd (ss : List Step) (n : Nat) : List Step := ss ++ .free :: List.replicate n .wake

theorem wake_of_freed {ss before after : List Step} {n : Nat} {s : Step} (unfreed : .free ∉ ss)
    (hrun : toTheEnd ss n = before ++ s :: after) (freed : .free ∈ before) : s = .wake := by
  rcases List.append_eq_append_iff.1 hrun with ⟨mid, rfl, hrest⟩ | ⟨mid, rfl, -⟩
  · cases mid with
    | nil => exact absurd (by simpa using freed) unfreed
    | cons s' mid =>
      obtain ⟨-, hwakes⟩ := List.cons_eq_cons.1 hrest
      have hs : s ∈ List.replicate n Step.wake := by simp [hwakes]
      exact List.eq_of_mem_replicate hs
  · exact absurd (List.mem_append_left _ freed) unfreed

namespace FutureRun

variable (zero : α) {r : FutureRun α} {s : Step} {ss before after : List Step}

/-- A step follows the course of its future, unless it is one that a freed future does not answer. -/
theorem step_follows (hs : r.freed = true → s = .wake) (h : Heap) :
    (r.step zero s h).1.2 = ⟨r.future.next s, r.freed || decide (s = .free)⟩ ∧
      (r.step zero s h).1.1.2 = r.future.happens s := by
  obtain ⟨f, freed⟩ := r
  cases freed with
  | true =>
    obtain rfl := hs rfl
    cases hk : f.wakerKept with
    | false => simp [step_wake_of_none zero f h hk, Future.next, Future.happens, hk]
    | true => simp [step_wake zero f h hk, Future.next, Future.happens, hk]
  | false =>
    by_cases hfree : s = .free
    · subst hfree
      rw [step_free, f.free_eq]
      exact ⟨rfl, rfl⟩
    · rw [decide_eq_false hfree]
      exact step_course zero hfree h

/-- **The steps of a run follow the course of its future** when a freed future is only woken. -/
theorem steps_follow (woken : ∀ before s after, ss = before ++ s :: after →
      (r.freed = true ∨ .free ∈ before) → s = .wake) (h : Heap) :
    (r.steps zero ss h).1.2 = ⟨r.future.after ss, r.freed || decide (.free ∈ ss)⟩ ∧
      eventsOf (r.steps zero ss h).1.1 = r.future.trace ss := by
  induction ss using List.reverseRecOn with
  | nil =>
    have hnil : r.steps zero [] h = (([], r), h) := rfl
    simp [hnil, Future.after, Future.trace, eventsOf]
  | append_singleton ss s ih =>
    obtain ⟨hstate, htrace⟩ := ih (fun before s' after hss =>
      woken before s' (after ++ [s]) (by simp [hss]))
    have hs : (r.freed || decide (.free ∈ ss)) = true → s = .wake := by
      intro hfreed
      exact woken ss s [] rfl (by simpa using hfreed)
    have hlast := step_follows zero (r := ⟨r.future.after ss, r.freed || decide (.free ∈ ss)⟩) hs
      (r.steps zero ss h).2
    rw [steps_snoc]
    simp only [hstate, hlast, Future.after_snoc, Future.trace_snoc, ← htrace]
    exact ⟨by simp [Bool.or_assoc, eq_comm], by simp [eventsOf, hlast]⟩

end FutureRun

/-! ### How long a computation lives -/

section Life

variable (polls : List (InnerPoll α)) (ss : List Step)

/-- After these steps the computation lives: no poll has seen it end, and the host has neither
cancelled nor freed the future. -/
def Lives : Prop := .free ∉ ss ∧ Unresolved polls ss

/-- After these steps this one ends the life of the computation: it is a poll that sees it resolve or
panic, or the host gives the computation up. -/
def EndedBy (s : Step) : Prop :=
  Lives polls ss ∧ (s = .cancel ∨ s = .free ∨
    ∃ d r, s = .poll d ∧ endOf polls (polled ss).length = some r)

variable {polls ss} {s : Step} {f : Future α}

theorem lives_snoc : Lives polls (ss ++ [s]) ↔ Lives polls ss ∧ ¬ EndedBy polls ss s := by
  constructor
  · rintro ⟨hfree, hu⟩
    simp only [List.mem_append, List.mem_singleton, not_or] at hfree
    obtain ⟨hu, hcancel, hend⟩ := (unresolved_snoc hfree.1).1 hu
    refine ⟨⟨hfree.1, hu⟩, ?_⟩
    rintro ⟨-, hs | hs | ⟨d, r, hs, he⟩⟩
    · exact hcancel hs
    · exact hfree.2 hs.symm
    · rw [hend d hs] at he
      cases he
  · rintro ⟨⟨hfree, hu⟩, hlast⟩
    refine ⟨?_, (unresolved_snoc hfree).2 ⟨hu, ?_, ?_⟩⟩
    · simp only [List.mem_append, List.mem_singleton, not_or]
      exact ⟨hfree, fun hs => hlast ⟨⟨hfree, hu⟩, .inr (.inl hs.symm)⟩⟩
    · exact fun hs => hlast ⟨⟨hfree, hu⟩, .inl hs⟩
    · intro d hs
      cases he : endOf polls (polled ss).length with
      | none => rfl
      | some r => exact absurd ⟨⟨hfree, hu⟩, .inr (.inr ⟨d, r, hs, he⟩)⟩ hlast

theorem Future.next_consumed (hs : f.state = .consumed) (s : Step) :
    (f.next s).state = .consumed := by
  cases s with
  | poll d => rw [next_poll (by simp [hs]) d, hs]
  | wake => exact f.next_wake_state.trans hs
  | cancel => rfl
  | complete => simp [next, hs, FutureState.collected]
  | free => rfl

/-- Nothing is left once the host has given the computation up. -/
theorem Future.consumed_after (f : Future α) (hs : .cancel ∈ ss ∨ .free ∈ ss) :
    (f.after ss).state = .consumed := by
  induction ss using List.reverseRecOn with
  | nil => simp at hs
  | append_singleton ss s ih =>
    rw [after_snoc]
    by_cases hgone : .cancel ∈ ss ∨ .free ∈ ss
    · exact next_consumed (ih hgone) s
    · obtain rfl | rfl : s = .cancel ∨ s = .free := by
        simp only [List.mem_append, List.mem_singleton] at hs
        grind
      · rfl
      · rfl

theorem Lives.running (hl : Lives polls ss) :
    ((Future.new polls).after ss).state = .running (polls.drop (polled ss).length) ∧
      ((Future.new polls).after ss).scheduler ≠ .cancelled :=
  (stands_after polls hl.1).running_of_unresolved hl.1 hl.2

theorem not_running_of_not_lives (hl : ¬ Lives polls ss) (ps : List (InnerPoll α)) :
    ((Future.new polls).after ss).state ≠ .running ps := by
  by_cases hfree : .free ∈ ss
  · simp [Future.consumed_after _ (.inr hfree)]
  · cases stands_after polls hfree with
    | running hu => exact absurd ⟨hfree, hu⟩ hl
    | complete _ hs => simp [hs]
    | consumed _ _ hs => simp [hs]

end Life

/-! ### What a step does with the computation -/

/-- Nothing but calls of continuations. -/
def OnlyCalls (es : List Event) : Prop := ∀ e ∈ es, ∃ f, e = .fired f

section OnlyCalls

variable {es es' : List Event}

theorem OnlyCalls.append (h : OnlyCalls es) (h' : OnlyCalls es') : OnlyCalls (es ++ es') := by
  intro e he
  exact (List.mem_append.1 he).elim (h e) (h' e)

theorem OnlyCalls.not_polled (h : OnlyCalls es) : .polled ∉ es := by
  intro he
  obtain ⟨f, hf⟩ := h _ he
  cases hf

theorem OnlyCalls.not_dropped (h : OnlyCalls es) : .dropped ∉ es := by
  intro he
  obtain ⟨f, hf⟩ := h _ he
  cases hf

theorem onlyCalls_ofFiring (f : Option Firing) : OnlyCalls (Event.ofFiring f) := by
  cases f <;> simp [OnlyCalls, Event.ofFiring]

theorem Scheduler.onlyCalls_wakes (n : Nat) (s : Scheduler) : OnlyCalls (s.wakes n).1 := by
  induction n generalizing s with
  | zero => simp [OnlyCalls, wakes]
  | succ n ih => exact (onlyCalls_ofFiring _).append (ih _)

theorem Future.onlyCalls_wake (f : Future α) : OnlyCalls (f.happens .wake) := by
  cases hk : f.wakerKept with
  | false => simp [happens, hk, OnlyCalls]
  | true =>
    simp only [happens, hk, if_true]
    exact onlyCalls_ofFiring _

/-- Where no computation is left, none is touched. -/
theorem Future.onlyCalls_of_not_running {f : Future α} (hs : ∀ ps, f.state ≠ .running ps)
    (s : Step) : OnlyCalls (f.happens s) := by
  have hdropping : f.state.dropping = [] := by
    cases hf : f.state with
    | running ps => exact absurd hf (hs ps)
    | _ => rfl
  cases s with
  | poll d =>
    have hpoll : f.happens (.poll d) = _ := congrArg Prod.fst (poll_of_not_running hs d)
    simp [hpoll, OnlyCalls]
  | wake => exact f.onlyCalls_wake
  | cancel => simpa [happens, hdropping] using onlyCalls_ofFiring _
  | complete => simp [happens, OnlyCalls]
  | free => simp [happens, hdropping, OnlyCalls]

end OnlyCalls

/-- What a step does with the computation, after these steps. -/
inductive Treats (polls : List (InnerPoll α)) (ss : List Step) (s : Step) : List Event → Prop
  /-- It is polled, and stays pending. -/
  | pending {d : UInt64} {calls : List Event} (lives : Lives polls ss) (poll : s = .poll d)
    (lasts : ¬ EndedBy polls ss s) (only : OnlyCalls calls) : Treats polls ss s (.polled :: calls)
  /-- It is polled, comes to its end and is dropped, and then the poll is answered. -/
  | ended {d : UInt64} {calls answer : List Event} (poll : s = .poll d) (last : EndedBy polls ss s)
    (only : OnlyCalls calls) (only' : OnlyCalls answer) :
    Treats polls ss s (.polled :: calls ++ .dropped :: answer)
  /-- It is given up.  Who waits for it is told before. -/
  | givenUp {calls : List Event} (noPoll : ∀ d, s ≠ .poll d) (last : EndedBy polls ss s)
    (only : OnlyCalls calls) : Treats polls ss s (calls ++ [.dropped])
  /-- It is left alone, or is there no more. -/
  | apart {es : List Event} (noPoll : ∀ d, s = .poll d → ¬ Lives polls ss)
    (lasts : ¬ EndedBy polls ss s) (only : OnlyCalls es) : Treats polls ss s es

section Treats

variable {polls : List (InnerPoll α)} {ss : List Step} {s : Step} {es : List Event}

/-- **One step**, and what it does with the computation. -/
theorem treats (polls : List (InnerPoll α)) (ss : List Step) (s : Step) :
    Treats polls ss s (((Future.new polls).after ss).happens s) := by
  by_cases hl : Lives polls ss
  · obtain ⟨hs, hc⟩ := hl.running
    have hdropping : ((Future.new polls).after ss).state.dropping = [.dropped] := by rw [hs]; rfl
    cases s with
    | poll d =>
      cases he : endOf polls (polled ss).length with
      | none =>
        have hpoll : ((Future.new polls).after ss).happens (.poll d) = _ :=
          congrArg Prod.fst (Future.poll_of_endOf_none hs hc he d)
        rw [hpoll, List.cons_append]
        refine .pending hl rfl ?_ ((Scheduler.onlyCalls_wakes _ _).append (onlyCalls_ofFiring _))
        rintro ⟨-, h | h | ⟨d', r, -, hr⟩⟩
        · cases h
        · cases h
        · rw [he] at hr
          cases hr
      | some r =>
        have hpoll : ((Future.new polls).after ss).happens (.poll d) = _ :=
          congrArg Prod.fst (Future.poll_of_endOf_some hs hc he d)
        have hanswer : OnlyCalls [.fired ⟨d, .ready⟩] := by simp [OnlyCalls]
        have hended := Treats.ended rfl ⟨hl, .inr (.inr ⟨d, r, rfl, he⟩)⟩
          (Scheduler.onlyCalls_wakes (polls.getD (polled ss).length {}).wakes
            ((Future.new polls).after ss).scheduler) hanswer
        rw [hpoll]
        simpa using hended
    | wake => exact .apart (by simp) (by simp [EndedBy]) (Future.onlyCalls_wake _)
    | complete => exact .apart (by simp) (by simp [EndedBy]) (by simp [OnlyCalls, Future.happens])
    | cancel =>
      simp only [Future.happens, hdropping]
      exact .givenUp (by simp) ⟨hl, .inl rfl⟩ (onlyCalls_ofFiring _)
    | free =>
      simp only [Future.happens, hdropping]
      have hnone : OnlyCalls [] := by simp [OnlyCalls]
      exact .givenUp (by simp) ⟨hl, .inr (.inl rfl)⟩ hnone
  · exact .apart (fun _ _ => hl) (fun h => hl h.1)
      (Future.onlyCalls_of_not_running (not_running_of_not_lives hl) s)

theorem Treats.mem_polled (t : Treats polls ss s es) :
    .polled ∈ es ↔ Lives polls ss ∧ ∃ d, s = .poll d := by
  cases t with
  | pending lives poll => simpa using ⟨lives, _, poll⟩
  | ended poll last => simpa using ⟨last.1, _, poll⟩
  | givenUp noPoll last only => simp [only.not_polled, noPoll]
  | apart noPoll lasts only =>
    simp only [only.not_polled, false_iff]
    rintro ⟨hl, d, hs⟩
    exact noPoll d hs hl

theorem Treats.mem_dropped (t : Treats polls ss s es) : .dropped ∈ es ↔ EndedBy polls ss s := by
  cases t with
  | pending lives poll lasts only => simp [only.not_dropped, lasts]
  | ended poll last => simp [last]
  | givenUp noPoll last => simp [last]
  | apart noPoll lasts only => simp [only.not_dropped, lasts]

theorem Treats.count_polled (t : Treats polls ss s es) : es.count .polled ≤ 1 := by
  cases t with
  | pending lives poll lasts only => simp [List.count_eq_zero.2 only.not_polled]
  | ended poll last only only' =>
    simp [List.count_eq_zero.2 only.not_polled, List.count_eq_zero.2 only'.not_polled]
  | givenUp noPoll last only => simp [List.count_eq_zero.2 only.not_polled]
  | apart noPoll lasts only => simp [List.count_eq_zero.2 only.not_polled]

theorem Treats.count_dropped (t : Treats polls ss s es) (last : EndedBy polls ss s) :
    es.count .dropped = 1 := by
  cases t with
  | pending lives poll lasts => exact absurd last lasts
  | ended poll last only only' =>
    simp [List.count_eq_zero.2 only.not_dropped, List.count_eq_zero.2 only'.not_dropped]
  | givenUp noPoll last only => simp [List.count_eq_zero.2 only.not_dropped]
  | apart noPoll lasts => exact absurd last lasts

theorem Treats.ordered (t : Treats polls ss s es) :
    es.Pairwise fun x y => x = .dropped → y ≠ .polled := by
  have hcalls : ∀ {calls : List Event}, OnlyCalls calls →
      calls.Pairwise fun x y => x = .dropped → y ≠ .polled := by
    intro calls only
    refine List.pairwise_of_forall_mem_list ?_
    rintro x hx y - rfl
    exact absurd hx only.not_dropped
  cases t with
  | pending lives poll lasts only => simpa using hcalls only
  | ended poll last only only' =>
    rw [List.cons_append, List.pairwise_cons, List.pairwise_append, List.pairwise_cons]
    refine ⟨by simp, hcalls only, ⟨?_, hcalls only'⟩, ?_⟩
    · rintro y hy - rfl
      exact only'.not_polled hy
    · rintro x hx y - rfl
      exact absurd hx only.not_dropped
  | givenUp noPoll last only =>
    rw [List.pairwise_append]
    refine ⟨hcalls only, List.pairwise_singleton _ _, ?_⟩
    rintro x hx y - rfl
    exact absurd hx only.not_dropped
  | apart noPoll lasts only => exact hcalls only

end Treats

/-! ### Whole runs -/

section Runs

variable (polls : List (InnerPoll α)) (ss : List Step)

/-- **A run** drops the computation once, or not if it still lives. -/
theorem Future.count_dropped :
    (Lives polls ss → ((Future.new polls).trace ss).count .dropped = 0) ∧
      (¬ Lives polls ss → ((Future.new polls).trace ss).count .dropped = 1) := by
  induction ss using List.reverseRecOn with
  | nil => exact ⟨fun _ => rfl, fun hl => absurd ⟨by simp, by simp, by simp⟩ hl⟩
  | append_singleton ss s ih =>
    have t := treats polls ss s
    rw [trace_snoc, List.count_append, lives_snoc]
    refine ⟨fun ⟨hl, hlast⟩ => ?_, fun hover => ?_⟩
    · rw [ih.1 hl, List.count_eq_zero.2 (mt t.mem_dropped.1 hlast)]
    · by_cases hl : Lives polls ss
      · have hlast : EndedBy polls ss s := Classical.not_not.1 fun hlast => hover ⟨hl, hlast⟩
        rw [ih.1 hl, t.count_dropped hlast]
      · have hlast : ¬ EndedBy polls ss s := fun hlast => hl hlast.1
        rw [ih.2 hl, List.count_eq_zero.2 (mt t.mem_dropped.1 hlast)]

/-- What was dropped is not polled afterwards. -/
theorem Future.trace_ordered :
    ((Future.new polls).trace ss).Pairwise fun x y => x = .dropped → y ≠ .polled := by
  induction ss using List.reverseRecOn with
  | nil => exact .nil
  | append_singleton ss s ih =>
    have t := treats polls ss s
    rw [trace_snoc, List.pairwise_append]
    refine ⟨ih, t.ordered, ?_⟩
    rintro x hx y hy rfl rfl
    have hzero := (count_dropped polls ss).1 (t.mem_polled.1 hy).1
    exact List.count_eq_zero.1 hzero hx

end Runs

namespace FutureRun

section ToTheEnd

variable (zero : α) (f : Future α) {ss before after : List Step} {n : Nat} {s : Step}
  (unfreed : .free ∉ ss)

include unfreed

/-- As far as it has come, a run to the end follows the course of its future. -/
theorem follows_so_far (hrun : toTheEnd ss n = before ++ after) (h : Heap) :
    (steps zero ⟨f, false⟩ before h).1.2 = ⟨f.after before, decide (.free ∈ before)⟩ ∧
      eventsOf (steps zero ⟨f, false⟩ before h).1.1 = f.trace before := by
  have hwoken : ∀ earlier s later, before = earlier ++ s :: later →
      false = true ∨ .free ∈ earlier → s = .wake := by
    intro earlier s later hb hfreed
    have hrun : toTheEnd ss n = earlier ++ s :: (later ++ after) := by rw [hrun, hb]; simp
    exact wake_of_freed unfreed hrun (hfreed.resolve_left Bool.false_ne_true)
  have hfollows := steps_follow zero (r := ⟨f, false⟩) hwoken h
  rwa [Bool.false_or] at hfollows

/-- And so does its next step, which a future that is not freed answers. -/
theorem follows_next (hrun : toTheEnd ss n = before ++ s :: after) (h : Heap) :
    ∃ reply, (steps zero ⟨f, false⟩ (toTheEnd ss n) h).1.1[before.length]? =
        some (reply, (f.after before).happens s) ∧
      (.free ∉ before → reply =
        (step zero ⟨f.after before, false⟩ s (steps zero ⟨f, false⟩ before h).2).1.1.1) := by
  have hbefore := (follows_so_far zero f unfreed hrun h).1
  have hwake : decide (.free ∈ before) = true → s = .wake := by
    intro hfreed
    exact wake_of_freed unfreed hrun (of_decide_eq_true hfreed)
  have hstep := step_follows zero (r := ⟨f.after before, decide (.free ∈ before)⟩) hwake
    (steps zero ⟨f, false⟩ before h).2
  have hreply := reply_of_step zero ⟨f, false⟩ before s after h
  rw [← hrun, hbefore] at hreply
  refine ⟨_, hreply.trans (congrArg some (Prod.ext rfl hstep.2)), fun hfree => ?_⟩
  rw [decide_eq_false hfree]

end ToTheEnd

/-- **A computation is polled while it lives, and dropped once.**  The host polls, cancels and asks
for the result in any order, wakers wake the computation, and at last the host frees the future, after
which wakers go on.  Each poll of the future polls the computation once if it lives and not at all if
not, and nothing else polls it.  It is dropped by the step that ends its life, and by no other: the
poll that sees it resolve or panic, or else the first cancel, or freeing the future.  A continuation
that waits when the host cancels is called before that. -/
theorem polled_while_it_lives (zero : α) (polls : List (InnerPoll α)) (ss : List Step) (n : Nat)
    (h : Heap) (unfreed : .free ∉ ss) :
    let out := (new polls).steps zero (toTheEnd ss n) h
    (∀ before s after, toTheEnd ss n = before ++ s :: after →
      ∃ reply es, out.1.1[before.length]? = some (reply, es) ∧
        es.count .polled ≤ 1 ∧ (.polled ∈ es ↔ Lives polls before ∧ ∃ d, s = .poll d) ∧
        (.dropped ∈ es ↔ EndedBy polls before s) ∧
        (s = .wake ∨ s = .complete → .polled ∉ es ∧ .dropped ∉ es) ∧
        ∀ d, s = .cancel → ((new polls).steps zero before h).1.2.future.scheduler = .waiting d →
          es = [.fired ⟨d, .ready⟩] ∨ es = [.fired ⟨d, .ready⟩, .dropped]) ∧
    (eventsOf out.1.1).count .dropped = 1 ∧
    (eventsOf out.1.1).Pairwise fun x y => x = .dropped → y ≠ .polled := by
  intro out
  have htrace : eventsOf out.1.1 = (Future.new polls).trace (toTheEnd ss n) :=
    (follows_so_far zero (.new polls) unfreed (List.append_nil _).symm h).2
  refine ⟨?_, ?_, ?_⟩
  · intro before s after hrun
    obtain ⟨reply, hreply, -⟩ := follows_next zero (.new polls) unfreed hrun h
    have t := treats polls before s
    refine ⟨reply, _, hreply, t.count_polled, t.mem_polled, t.mem_dropped, ?_, ?_⟩
    · rw [t.mem_polled, t.mem_dropped]
      rintro (rfl | rfl)
      · simp [EndedBy]
      · simp [EndedBy]
    · rintro d rfl hwaits
      have hstate := (follows_so_far zero (.new polls) unfreed hrun h).1
      have hwaits : ((Future.new polls).after before).scheduler = .waiting d :=
        (congrArg (·.future.scheduler) hstate).symm.trans hwaits
      simp only [Future.happens, hwaits, Scheduler.cancel, Event.ofFiring]
      cases ((Future.new polls).after before).state with
      | running ps => exact .inr rfl
      | _ => exact .inl rfl
  · rw [htrace]
    exact (Future.count_dropped polls _).2 fun hl => hl.1 (by simp [toTheEnd])
  · rw [htrace]
    exact Future.trace_ordered polls _

/-- The host cancels while a continuation waits: this is called, and then the computation is dropped. -/
theorem polled_while_it_lives_cancelled :
    let polls : List (InnerPoll Unit) := [{ keeps := true }]
    let ss : List Step := [.poll 1, .complete, .cancel, .poll 2]
    let out := (new polls).steps () (toTheEnd ss 1) {}
    .free ∉ ss ∧ (∃ reply, out.1.1[2]? = some (reply, [.fired ⟨1, .ready⟩, .dropped])) ∧
      (eventsOf out.1.1).count .dropped = 1 := by
  intro polls ss out
  have unfreed : Step.free ∉ ss := by decide
  obtain ⟨each, once, -⟩ := polled_while_it_lives () polls ss 1 {} unfreed
  obtain ⟨reply, es, hreply, -, -, hdropped, -, hcancel⟩ := each [.poll 1, .complete] .cancel _ rfl
  have hlives : Lives polls [.poll 1, .complete] := ⟨by decide, by decide, by decide⟩
  have hes := (hcancel 1 rfl rfl).resolve_left fun hes => by
    have hmem := hdropped.2 ⟨hlives, .inl rfl⟩
    rw [hes] at hmem
    revert hmem
    decide
  exact ⟨unfreed, ⟨reply, hes ▸ hreply⟩, once⟩

end FutureRun

end CallBoundary.Native
