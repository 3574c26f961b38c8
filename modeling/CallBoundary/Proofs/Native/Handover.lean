import Mathlib.Data.List.ReduceOption
import CallBoundary.Proofs.Native.Replies

/-!
# Handing a result over

Whether a future has a result to hand over can be told from the steps made so far and from what the
polls of the computation find.  It is `Unresolved` until a poll `Sees` the computation end; the
outcome is then `Unclaimed` until the host asks for it or cancels.  These are the states that a
future goes through (`stands_after`).  So an outcome is handed over at most once, by the first
request that comes after it and before a cancel, and a request that comes too early leaves the
future as it was (`handed_over_once`).
-/

namespace CallBoundary.Native

theorem snoc_eq_append_cons {β : Type} {xs ys zs : List β} {x y : β} :
    xs ++ [x] = ys ++ y :: zs ↔
      (zs = [] ∧ xs = ys ∧ x = y) ∨ ∃ zs', zs = zs' ++ [x] ∧ xs = ys ++ y :: zs' := by
  rcases List.eq_nil_or_concat zs with rfl | ⟨zs', z, rfl⟩
  · simp
  · have hassoc : ys ++ y :: (zs' ++ [z]) = (ys ++ y :: zs') ++ [z] := by simp
    simp only [List.concat_eq_append, hassoc, List.append_eq_nil_iff]
    constructor
    · intro h
      obtain ⟨h₁, h₂⟩ := List.append_inj' h rfl
      obtain rfl : x = z := by simpa using h₂
      exact .inr ⟨zs', rfl, h₁⟩
    · rintro (⟨h, -⟩ | ⟨zs'', h, rfl⟩)
      · simp at h
      · obtain ⟨rfl, h⟩ := List.append_inj' h rfl
        obtain rfl : z = x := by simpa using h
        rfl

theorem polled_append {ss ss' : List Step} (unfreed : .free ∉ ss) :
    polled (ss ++ ss') = polled ss ++ polled ss' := by
  induction ss with
  | nil => rfl
  | cons s ss ih =>
    obtain ⟨hs, hss⟩ := not_or.1 (mt List.mem_cons.2 unfreed)
    cases s with
    | free => exact absurd rfl hs
    | _ => simp [ih hss]

/-! ### What the steps say about the outcome -/

section Outcome

variable (polls : List (InnerPoll α))

/-- The result of the poll of the computation that comes after so many others, if it ends it. -/
def endOf (n : Nat) : Option (Except Fault α) := (polls.getD n {}).ends.result?

/-- After these steps the computation is neither over nor cancelled. -/
def Unresolved (ss : List Step) : Prop :=
  .cancel ∉ ss ∧ ∀ i < (polled ss).length, endOf polls i = none

/-- A poll after these steps sees the computation come to this end. -/
def Sees (ss : List Step) (r : Except Fault α) : Prop :=
  Unresolved polls ss ∧ endOf polls (polled ss).length = some r

/-- A poll among these steps saw the computation come to this end, and after that poll the host has
neither asked for the result nor cancelled. -/
def Unclaimed (ss : List Step) (r : Except Fault α) : Prop :=
  ∃ earlier d later, ss = earlier ++ .poll d :: later ∧ Sees polls earlier r ∧
    .cancel ∉ later ∧ .complete ∉ later

variable {polls} {ss : List Step} {s : Step} {r r' : Except Fault α}

theorem unresolved_snoc (unfreed : .free ∉ ss) : Unresolved polls (ss ++ [s]) ↔
    Unresolved polls ss ∧ s ≠ .cancel ∧
      ∀ d, s = .poll d → endOf polls (polled ss).length = none := by
  unfold Unresolved
  rw [polled_append unfreed]
  cases s with
  | poll d =>
    simp only [polled_poll, polled_nil, List.length_append, List.length_singleton,
      Nat.forall_lt_succ_right]
    simp [and_assoc]
  | _ => simp

theorem unclaimed_snoc : Unclaimed polls (ss ++ [s]) r ↔
    ((∃ d, s = .poll d) ∧ Sees polls ss r) ∨
      (Unclaimed polls ss r ∧ s ≠ .cancel ∧ s ≠ .complete) := by
  constructor
  · rintro ⟨earlier, d, later, hss, hsees, hcancel, hcomplete⟩
    rcases snoc_eq_append_cons.1 hss with ⟨-, rfl, rfl⟩ | ⟨later, rfl, rfl⟩
    · exact .inl ⟨⟨d, rfl⟩, hsees⟩
    · simp only [List.mem_append, List.mem_singleton, not_or] at hcancel hcomplete
      exact .inr ⟨⟨earlier, d, later, rfl, hsees, hcancel.1, hcomplete.1⟩, Ne.symm hcancel.2,
        Ne.symm hcomplete.2⟩
  · rintro (⟨⟨d, rfl⟩, hsees⟩ | ⟨⟨earlier, d, later, rfl, hsees, hcancel, hcomplete⟩, hs, hs'⟩)
    · exact ⟨ss, d, [], rfl, hsees, by simp, by simp⟩
    · exact ⟨earlier, d, later ++ [s], by simp, hsees, by simp [hcancel, Ne.symm hs],
        by simp [hcomplete, Ne.symm hs']⟩

theorem Sees.unique {ss' : List Step} (h : Sees polls ss r) (h' : Sees polls ss' r') : r = r' := by
  rcases Nat.lt_trichotomy (polled ss).length (polled ss').length with hlt | heq | hlt
  · have := h.2.symm.trans (h'.1.2 _ hlt)
    cases this
  · exact Option.some.inj (h.2.symm.trans (heq ▸ h'.2))
  · have := h'.2.symm.trans (h.1.2 _ hlt)
    cases this

theorem Unclaimed.unique (h : Unclaimed polls ss r) (h' : Unclaimed polls ss r') : r = r' := by
  obtain ⟨_, _, _, _, hsees, _⟩ := h
  obtain ⟨_, _, _, _, hsees', _⟩ := h'
  exact hsees.unique hsees'

/-- Once a poll has seen the computation end, no later poll does. -/
theorem not_unresolved_of_sees {later : List Step} {d : UInt64} (unfreed : .free ∉ ss)
    (hsees : Sees polls ss r) : ¬ Unresolved polls (ss ++ .poll d :: later) := by
  rintro ⟨-, hnone⟩
  have hlt : (polled ss).length < (polled (ss ++ .poll d :: later)).length := by
    simp [polled_append unfreed]
  have hend := hsees.2
  rw [hnone _ hlt] at hend
  cases hend

theorem Unclaimed.not_unresolved (unfreed : .free ∉ ss) (hr : Unclaimed polls ss r) :
    ¬ Unresolved polls ss := by
  obtain ⟨earlier, d, later, rfl, hsees, -, -⟩ := hr
  exact not_unresolved_of_sees (fun h => unfreed (List.mem_append_left _ h)) hsees

/-- Nothing is left once the host has asked for the outcome or cancelled. -/
theorem not_unclaimed_of_over {before between : List Step} (hs : s = .cancel ∨ s = .complete)
    (unfreed : .free ∉ before) (hr : Unclaimed polls before r) :
    ¬ Unclaimed polls (before ++ s :: between) r' := by
  rintro ⟨earlier, d, later, hss, hsees, hcancel, hcomplete⟩
  have hne : s ≠ .poll d := by
    rcases hs with rfl | rfl
    · nofun
    · nofun
  -- the poll that saw the end came before that
  rcases List.append_eq_append_iff.1 hss with ⟨mid, rfl, hrest⟩ | ⟨mid, rfl, hrest⟩
  · cases mid with
    | nil => simp [hne] at hrest
    | cons s mid =>
      obtain ⟨rfl, rfl⟩ := List.cons_eq_cons.1 hrest
      obtain ⟨earlier', d', later', rfl, hsees', -, -⟩ := hr
      have hu : Unresolved polls (earlier' ++ .poll d' :: (later' ++ s :: mid)) := by
        simpa using hsees.1
      exact not_unresolved_of_sees (fun h => unfreed (List.mem_append_left _ h)) hsees' hu
  · cases mid with
    | nil => simp [hne.symm] at hrest
    | cons s mid =>
      obtain ⟨rfl, rfl⟩ := List.cons_eq_cons.1 hrest
      rcases hs with rfl | rfl
      · exact hcancel (by simp)
      · exact hcomplete (by simp)

end Outcome

/-! ### The states of a future -/

theorem Scheduler.store_ne_cancelled {s : Scheduler} (hs : s ≠ .cancelled) (d : UInt64) :
    (s.store d).2 ≠ .cancelled := by
  cases s <;> simp_all [store]

theorem Scheduler.wake_ne_cancelled {s : Scheduler} (hs : s ≠ .cancelled) :
    s.wake.2 ≠ .cancelled := by
  cases s <;> simp_all [wake]

theorem Scheduler.wakes_ne_cancelled {s : Scheduler} (hs : s ≠ .cancelled) (n : Nat) :
    (s.wakes n).2 ≠ .cancelled := by
  induction n generalizing s with
  | zero => exact hs
  | succ n ih => exact ih (wake_ne_cancelled hs)

/-- The state of a future after some steps. -/
inductive Stands (polls : List (InnerPoll α)) (ss : List Step) (f : Future α) : Prop
  | running : Unresolved polls ss → f.state = .running (polls.drop (polled ss).length) →
      f.scheduler ≠ .cancelled → Stands polls ss f
  | complete {r : Except Fault α} : Unclaimed polls ss r → f.state = .complete r →
      f.scheduler ≠ .cancelled → Stands polls ss f
  | consumed : ¬ Unresolved polls ss → (∀ r, ¬ Unclaimed polls ss r) → f.state = .consumed →
      Stands polls ss f

section Stands

variable {polls : List (InnerPoll α)} {ss : List Step} {f : Future α}

theorem headD_drop (polls : List (InnerPoll α)) (n : Nat) :
    (polls.drop n).headD {} = polls.getD n {} := by
  simp [List.headD_eq_head?_getD, List.head?_drop, List.getD_eq_getElem?_getD]

/-- A poll that finds the computation pending. -/
theorem Future.poll_of_endOf_none {n : Nat} (hs : f.state = .running (polls.drop n))
    (hc : f.scheduler ≠ .cancelled) (he : endOf polls n = none) (d : UInt64) :
    let woken := f.scheduler.wakes (polls.getD n {}).wakes
    f.poll d = (.polled :: woken.1 ++ Event.ofFiring (woken.2.store d).1,
      ⟨.running (polls.drop (n + 1)), (woken.2.store d).2,
        f.wakerKept || (polls.getD n {}).keeps⟩) := by
  have hinner := pollInner_pending hs (by rw [headD_drop]; exact he)
  rw [headD_drop, List.tail_drop] at hinner
  exact poll_of_pending d hc hinner

/-- A poll that sees the computation end. -/
theorem Future.poll_of_endOf_some {n : Nat} (hs : f.state = .running (polls.drop n))
    (hc : f.scheduler ≠ .cancelled) {r : Except Fault α} (he : endOf polls n = some r)
    (d : UInt64) :
    let woken := f.scheduler.wakes (polls.getD n {}).wakes
    f.poll d = (.polled :: (woken.1 ++ [.dropped]) ++ [.fired ⟨d, .ready⟩],
      ⟨.complete r, woken.2, f.wakerKept || (polls.getD n {}).keeps⟩) := by
  have hinner := pollInner_ends hs (r := r) (by rw [headD_drop]; exact he)
  rw [headD_drop] at hinner
  exact poll_of_ready d hc hinner

/-- A computation that is neither over nor cancelled is still running. -/
theorem Stands.running_of_unresolved (st : Stands polls ss f) (unfreed : .free ∉ ss)
    (hu : Unresolved polls ss) :
    f.state = .running (polls.drop (polled ss).length) ∧ f.scheduler ≠ .cancelled := by
  cases st with
  | running _ hs hc => exact ⟨hs, hc⟩
  | complete hr _ _ => exact absurd hu (hr.not_unresolved unfreed)
  | consumed hover _ _ => exact absurd hu hover

/-- A poll of a computation that is not over finds it pending or sees it end. -/
theorem Stands.poll (unfreed : .free ∉ ss) (d : UInt64) (hu : Unresolved polls ss)
    (hs : f.state = .running (polls.drop (polled ss).length)) (hc : f.scheduler ≠ .cancelled) :
    Stands polls (ss ++ [.poll d]) (f.next (.poll d)) := by
  have hc' := Scheduler.wakes_ne_cancelled hc (polls.getD (polled ss).length {}).wakes
  cases he : endOf polls (polled ss).length with
  | none =>
    have hpoll : f.next (.poll d) = _ := congrArg Prod.snd (Future.poll_of_endOf_none hs hc he d)
    rw [hpoll]
    refine .running ((unresolved_snoc unfreed).2 ⟨hu, nofun, fun _ _ => he⟩) ?_
      (Scheduler.store_ne_cancelled hc' d)
    simp [polled_append unfreed]
  | some r =>
    have hpoll : f.next (.poll d) = _ := congrArg Prod.snd (Future.poll_of_endOf_some hs hc he d)
    rw [hpoll]
    exact .complete (unclaimed_snoc.2 (.inl ⟨⟨d, rfl⟩, hu, he⟩)) rfl hc'

/-- A future that is not running is not changed by a poll. -/
theorem Future.next_poll (hs : ∀ ps, f.state ≠ .running ps) (d : UInt64) :
    f.next (.poll d) = f := congrArg Prod.snd (poll_of_not_running hs d)

/-- A request that comes too early leaves the future as it was. -/
theorem Future.next_complete {ps : List (InnerPoll α)} (hs : f.state = .running ps) :
    f.next .complete = f := by
  simp only [next, hs, FutureState.collected]
  rw [← hs]

/-- **One step** takes a future from one state to another as the steps say. -/
theorem Stands.step (st : Stands polls ss f) (unfreed : .free ∉ ss) {s : Step} (hs : s ≠ .free) :
    Stands polls (ss ++ [s]) (f.next s) := by
  have hwake : f.scheduler ≠ .cancelled → (f.next .wake).scheduler ≠ .cancelled := by
    intro hc
    cases hk : f.wakerKept with
    | false => rwa [f.next_wake_of_none hk]
    | true => rw [f.next_wake hk]; exact Scheduler.wake_ne_cancelled hc
  cases st with
  | running hu hstate hc =>
    cases s with
    | free => exact absurd rfl hs
    | poll d => exact .poll unfreed d hu hstate hc
    | wake =>
      refine .running ((unresolved_snoc unfreed).2 ⟨hu, nofun, nofun⟩) ?_ (hwake hc)
      simpa [polled_append unfreed] using hstate
    | cancel =>
      refine .consumed (fun h => ((unresolved_snoc unfreed).1 h).2.1 rfl) ?_ rfl
      intro r hr
      rcases unclaimed_snoc.1 hr with ⟨⟨d, hd⟩, -⟩ | ⟨-, h, -⟩
      · cases hd
      · exact h rfl
    | complete =>
      rw [Future.next_complete hstate]
      refine .running ((unresolved_snoc unfreed).2 ⟨hu, nofun, nofun⟩) ?_ hc
      simpa [polled_append unfreed] using hstate
  | @complete r hr hstate hc =>
    have hover := hr.not_unresolved unfreed
    have hgone : ∀ s, s = .cancel ∨ s = .complete → Stands polls (ss ++ [s])
        ({ f with state := .consumed, scheduler := (f.next s).scheduler } : Future α) := by
      intro s hs
      refine .consumed (fun h => hover ((unresolved_snoc unfreed).1 h).1) ?_ rfl
      intro r' hr'
      rcases unclaimed_snoc.1 hr' with ⟨⟨d, rfl⟩, -⟩ | ⟨-, h, h'⟩
      · rcases hs with hs | hs <;> cases hs
      · exact hs.elim h h'
    cases s with
    | free => exact absurd rfl hs
    | poll d =>
      rw [Future.next_poll (by simp [hstate]) d]
      exact .complete (unclaimed_snoc.2 (.inr ⟨hr, nofun, nofun⟩)) hstate hc
    | wake =>
      exact .complete (unclaimed_snoc.2 (.inr ⟨hr, nofun, nofun⟩)) (f.next_wake_state.trans hstate)
        (hwake hc)
    | cancel => exact hgone .cancel (.inl rfl)
    | complete =>
      have hnext : f.next .complete = { f with state := .consumed } := by
        simp [Future.next, hstate, FutureState.collected]
      rw [hnext]
      exact hnext ▸ hgone .complete (.inr rfl)
  | consumed hover hnone hstate =>
    have hnone' : ∀ r, ¬ Unclaimed polls (ss ++ [s]) r := by
      intro r hr
      rcases unclaimed_snoc.1 hr with ⟨-, hsees⟩ | ⟨h, -⟩
      · exact hover hsees.1
      · exact hnone r h
    refine .consumed (fun h => hover ((unresolved_snoc unfreed).1 h).1) hnone' ?_
    cases s with
    | free => exact absurd rfl hs
    | poll d => rw [Future.next_poll (by simp [hstate]) d, hstate]
    | wake => exact f.next_wake_state.trans hstate
    | cancel => rfl
    | complete => simp [Future.next, hstate, FutureState.collected]

/-- **The steps of a run tell the state of its future.** -/
theorem stands_after (polls : List (InnerPoll α)) (unfreed : .free ∉ ss) :
    Stands polls ss ((Future.new polls).after ss) := by
  induction ss using List.reverseRecOn with
  | nil => exact .running ⟨by simp, by simp⟩ rfl nofun
  | append_singleton ss s ih =>
    simp only [List.mem_append, List.mem_singleton, not_or] at unfreed
    rw [Future.after_snoc]
    exact (ih unfreed.1).step unfreed.1 (Ne.symm unfreed.2)

end Stands

/-! ### Requests that come too early -/

/-- The entries of a list that belong to the steps of a run, and not to the requests that were
inserted where there is `none`. -/
def others {β : Type} (ms : List (Option Step)) (replies : List β) : List β :=
  ((ms.zip replies).filter (·.1.isSome)).map (·.2)

namespace FutureRun

/-- **Requests that come too early change nothing** but where messages lie, wherever and however
often they are inserted. -/
theorem steps_inserted (zero : α) {polls : List (InnerPoll α)} {done : List Step} {f : Future α}
    (st : Stands polls done f) (unfreed : .free ∉ done) (ms : List (Option Step))
    (unfreed' : .free ∉ ms.reduceOption)
    (early : ∀ before after, ms = before ++ none :: after →
      Unresolved polls (done ++ before.reduceOption)) (h h' : Heap) :
    let out := steps zero ⟨f, false⟩ ms.reduceOption h
    let out' := steps zero ⟨f, false⟩ (ms.map (·.getD .complete)) h'
    List.Forall₂ (fun x y => x.1.Alike y.1 ∧ x.2 = y.2) (others ms out'.1.1) out.1.1 ∧
      out'.1.2 = out.1.2 := by
  induction ms generalizing done f h h' with
  | nil => exact ⟨.nil, rfl⟩
  | cons m ms ih =>
    cases m with
    | none =>
      -- the future is still running, and a request leaves it so
      have hu : Unresolved polls done := by simpa using early [] ms rfl
      have hstay : f.next .complete = f :=
        Future.next_complete (st.running_of_unresolved unfreed hu).1
      have hnext := (step_course zero (f := f) (s := .complete) nofun h').1
      rw [hstay] at hnext
      have := ih st unfreed (by simpa using unfreed')
        (fun before after hms => by simpa using early (none :: before) after (by simp [hms])) h
        (step zero ⟨f, false⟩ .complete h').2
      simpa [steps_cons, hnext, others] using this
    | some s =>
      simp only [List.reduceOption_cons_of_some, List.mem_cons, not_or] at unfreed'
      have hs : s ≠ .free := Ne.symm unfreed'.1
      obtain ⟨hnext, hevents⟩ := step_course zero (f := f) hs h
      obtain ⟨hnext', hevents'⟩ := step_course zero (f := f) hs h'
      have := ih (st.step unfreed hs) (by simp [unfreed, unfreed'.1]) unfreed'.2
        (fun before after hms => by simpa using early (some s :: before) after (by simp [hms]))
        (step zero ⟨f, false⟩ s h).2 (step zero ⟨f, false⟩ s h').2
      have halike := reply_alike zero f h' h hs
      simpa [steps_cons, hnext, hnext', others, halike, hevents, hevents'] using this

/-- What a request for the result is answered with. -/
theorem complete_reply (zero : α) {polls : List (InnerPoll α)} {before : List Step}
    (unfreed : .free ∉ before) (after : List Step) (h : Heap) :
    ∃ reply, ((new polls).steps zero (before ++ .complete :: after) h).1.1[before.length]? =
        some (reply, []) ∧
      (∀ r, Unclaimed polls before r → reply.Tells zero r) ∧
      (Unresolved polls before →
        reply.Tells zero (.error (.internal "Future completed before it was ready"))) ∧
      (¬ Unresolved polls before → (∀ r, ¬ Unclaimed polls before r) →
        reply.Tells zero (.error (.internal "Future result already consumed or cancelled"))) := by
  let f := (Future.new polls).after before
  have hreply := reply_at zero (.new polls) unfreed .complete after h
  have hcomplete := step_complete_eq zero f (steps zero (new polls) before h).2
  have htells := tells_complete zero f (steps zero (new polls) before h).2
  have hstands : Stands polls before f := stands_after polls unfreed
  refine ⟨_, hreply.trans (congrArg some (Prod.ext rfl ?_)), ?_, ?_, ?_⟩
  · exact congrArg (fun x => x.1.1.2) hcomplete
  · intro r hr
    cases hstands with
    | running hu _ _ => exact absurd hu (hr.not_unresolved unfreed)
    | complete hr' hs _ =>
      rw [hs] at htells
      exact hr.unique hr' ▸ htells
    | consumed _ hnone _ => exact absurd hr (hnone r)
  · intro hu
    rwa [(hstands.running_of_unresolved unfreed hu).1] at htells
  · intro hover hnone
    cases hstands with
    | running hu _ _ => exact absurd hu hover
    | complete hr _ _ => exact absurd hr (hnone _)
    | consumed _ _ hs => rwa [hs] at htells

/-- **A result is handed over at most once.**  In a run of a future that is not freed, each request
for the result is answered by the outcome of the computation if some poll saw it and nothing came
between, and otherwise by a panic that says why not; no two requests get the outcome; and if requests
are inserted while the computation is neither over nor cancelled, all other steps answer and do what
they did without. -/
theorem handed_over_once (zero : α) (polls : List (InnerPoll α)) (ss : List Step) (h : Heap)
    (unfreed : .free ∉ ss) :
    let out := (new polls).steps zero ss h
    (∀ before after, ss = before ++ .complete :: after →
      ∃ reply, out.1.1[before.length]? = some (reply, []) ∧
        (∀ r, Unclaimed polls before r → reply.Tells zero r) ∧
        (Unresolved polls before →
          reply.Tells zero (.error (.internal "Future completed before it was ready"))) ∧
        (¬ Unresolved polls before → (∀ r, ¬ Unclaimed polls before r) →
          reply.Tells zero (.error (.internal "Future result already consumed or cancelled")))) ∧
    (∀ before between after r r', ss = before ++ .complete :: (between ++ .complete :: after) →
      Unclaimed polls before r → ¬ Unclaimed polls (before ++ .complete :: between) r') ∧
    ∀ ms : List (Option Step), ms.reduceOption = ss →
      (∀ before after, ms = before ++ none :: after → Unresolved polls before.reduceOption) →
      let out' := (new polls).steps zero (ms.map (·.getD .complete)) h
      List.Forall₂ (fun x y => x.1.Alike y.1 ∧ x.2 = y.2) (others ms out'.1.1) out.1.1 ∧
        out'.1.2 = out.1.2 := by
  intro out
  refine ⟨?_, ?_, ?_⟩
  · rintro before after rfl
    exact complete_reply zero (fun h => unfreed (List.mem_append_left _ h)) after h
  · rintro before between after r r' rfl hr
    exact not_unclaimed_of_over (.inr rfl) (fun h => unfreed (List.mem_append_left _ h)) hr
  · rintro ms rfl early
    have st : Stands polls [] (.new polls) := stands_after polls (by simp)
    exact steps_inserted zero st (by simp) ms unfreed (by simpa using early) h h

/-- The outcome of a computation that wakes itself, asked for too early, in time and again. -/
theorem handed_over_once_again :
    let polls : List (InnerPoll Nat) := [{ wakes := 1 }, { ends := .resolved (.ok 7) }]
    let ss : List Step := [.complete, .poll 1, .poll 2, .complete, .cancel, .complete]
    let out := (new polls).steps 0 ss {}
    .free ∉ ss ∧ out.1.1[3]? = some (.result 7 {}, []) ∧ ∃ reply, out.1.1[5]? = some (reply, []) ∧
      reply.Tells 0 (.error (.internal "Future result already consumed or cancelled")) := by
  intro polls ss out
  have hfree : Step.free ∉ ss := by decide
  obtain ⟨answers, -, -⟩ := handed_over_once 0 polls ss {} hfree
  have hpending : ∀ i < 1, endOf polls i = none := by
    intro i hi
    obtain rfl : i = 0 := by omega
    rfl
  have hunclaimed : Unclaimed polls [.complete, .poll 1, .poll 2] (.ok 7) :=
    ⟨[.complete, .poll 1], 2, [], rfl, ⟨⟨by decide, hpending⟩, rfl⟩, by decide, by decide⟩
  obtain ⟨reply, hreply, htells, -⟩ := answers [.complete, .poll 1, .poll 2] _ rfl
  obtain ⟨late, hlate, -, -, hrefused⟩ :=
    answers [.complete, .poll 1, .poll 2, .complete, .cancel] [] rfl
  have hseven : reply = .result 7 {} := htells _ hunclaimed
  refine ⟨hfree, hseven ▸ hreply, late, hlate, hrefused ?_ ?_⟩
  · exact fun h => h.1 (by decide)
  · intro r
    exact not_unclaimed_of_over (.inr rfl) (by decide) hunclaimed

end FutureRun

end CallBoundary.Native
