import CallBoundary.Proofs.Native.Handover

/-!
# What becomes of an outcome's buffer

The buffer that a computation ends with, as a value or as a declared error, is the future's until the
host asks for the outcome or gives it up (`Custody`).  Asked for in time it is handed over, once;
given up, a declared error is given back, once, and a value is lost (`handed_over_or_given_back`).
-/

namespace CallBoundary.Native

/-- The buffer that an outcome comes in. -/
def carried : Except Fault Buffer → Option Buffer
  | .ok b => some b
  | .error (.domain b) => some b
  | .error _ => none

/-- The blocks that are given back when an outcome is given up. -/
def givenUp : Except Fault Buffer → List Nat
  | .error (.domain b) => b.address?.toList
  | _ => []

/-- The buffers that a reply hands to the host. -/
def Reply.buffers : Reply Buffer → List Buffer
  | .result b s => [b, s.payload]
  | _ => []

/-- The buffers handed to the host whose data lies at this address. -/
def handedAt (a : Nat) (replies : List (Reply Buffer × List Event)) : List Buffer :=
  replies.flatMap (·.1.buffers.filter (·.address? = some a))

theorem handedAt_snoc (a : Nat) (replies : List (Reply Buffer × List Event))
    (x : Reply Buffer × List Event) : handedAt a (replies ++ [x]) =
      handedAt a replies ++ x.1.buffers.filter (·.address? = some a) := by
  simp [handedAt]

/-! ### What the steps do to the heap -/

section Heap

variable {r : Except Fault Buffer} {s : Step} {a : Nat} {h : Heap} (f : Future Buffer)

/-- A request for the result takes nothing back; it may place a message. -/
theorem step_complete_heap (h : Heap) :
    let h' := (FutureRun.step Buffer.unallocated ⟨f, false⟩ .complete h).2
    h'.released = h.released ∧ h.next ≤ h'.next := by
  rw [step_complete_eq]
  rcases f.state.outcome with ⟨b | m | text⟩ | b
  · exact ⟨rfl, Nat.le_refl _⟩
  · exact ⟨(messageBuffer_fresh h (some m)).1, (messageBuffer_fresh h (some m)).2.1⟩
  · exact ⟨(messageBuffer_fresh h text).1, (messageBuffer_fresh h text).2.1⟩
  · exact ⟨rfl, Nat.le_refl _⟩

/-- It hands over the buffer that the state holds, if any.  Messages lie elsewhere. -/
theorem step_complete_buffers (old : a < h.next) :
    (FutureRun.step .unallocated ⟨f, false⟩ .complete h).1.1.1.buffers.filter
        (·.address? = some a) =
      (carried f.state.outcome).toList.filter (·.address? = some a) := by
  have hnone : Buffer.unallocated.address? = none := rfl
  have hmessage : ∀ text,
      [.unallocated, (messageBuffer text h).1].filter (·.address? = some a) = [] := by
    intro text
    have hapart : (messageBuffer text h).1.address? ≠ some a := by
      intro ha
      have := (messageBuffer_fresh h text).2.2 a ha
      omega
    simp [List.filter, hnone, hapart]
  rw [step_complete_eq]
  rcases f.state.outcome with ⟨b | m | text⟩ | b
  · rfl
  · exact hmessage (some m)
  · exact hmessage text
  · show [b, .unallocated].filter _ = [b].filter _
    simp [List.filter, hnone]

/-- No other step hands a buffer over. -/
theorem step_buffers (hs : s ≠ .complete) (h : Heap) :
    (FutureRun.step .unallocated ⟨f, false⟩ s h).1.1.1.buffers = [] := by
  cases s with
  | complete => exact absurd rfl hs
  | wake =>
    cases hk : f.wakerKept with
    | false => rw [FutureRun.step_wake_of_none _ f h hk]; rfl
    | true => rw [FutureRun.step_wake _ f h hk]; rfl
  | _ => rfl

/-- Polls and wake-ups leave the heap alone. -/
theorem step_heap (hs : s ≠ .cancel) (hs' : s ≠ .complete) (hs'' : s ≠ .free) (h : Heap) :
    (FutureRun.step Buffer.unallocated ⟨f, false⟩ s h).2 = h := by
  cases s with
  | poll d => rfl
  | wake =>
    cases hk : f.wakerKept with
    | false => rw [FutureRun.step_wake_of_none _ f h hk]
    | true => rw [FutureRun.step_wake _ f h hk]
  | cancel => exact absurd rfl hs
  | complete => exact absurd rfl hs'
  | free => exact absurd rfl hs''

/-- Only a cancel, or freeing the future, gives anything back. -/
theorem step_released (hs : s ≠ .cancel) (hs' : s ≠ .free) (h : Heap) :
    (FutureRun.step Buffer.unallocated ⟨f, false⟩ s h).2.released = h.released := by
  by_cases hc : s = .complete
  · subst hc
    exact (step_complete_heap f h).1
  · rw [step_heap f hs hc hs']

theorem release_of_complete (layout : ∀ b, r = .error (.domain b) → b.check = .ok ()) (h : Heap) :
    (Future.release (.complete r) h).2.released = h.released ++ givenUp r ∧
      (Future.release (.complete r) h).2.next = h.next := by
  rcases r with ⟨b | m | text⟩ | b
  · have hfree : (Future.release (.complete (.error (.domain b) : Except Fault Buffer)) h).2 =
        (attempt (allocator.free b) h).2 := rfl
    simp only [hfree, attempt, allocator, layout b rfl, givenUp]
    cases b.address? with
    | none => exact ⟨(List.append_nil _).symm, rfl⟩
    | some a => exact ⟨rfl, rfl⟩
  · exact ⟨(List.append_nil _).symm, rfl⟩
  · exact ⟨(List.append_nil _).symm, rfl⟩
  · exact ⟨(List.append_nil _).symm, rfl⟩

end Heap

/-! ### Where the buffer is -/

section Outcome

variable {α : Type} (polls : List (InnerPoll α)) (ss : List Step) (r : Except Fault α)

/-- A poll has seen the computation come to this end. -/
def Ended : Prop := ∃ earlier d later, ss = earlier ++ .poll d :: later ∧ Sees polls earlier r

/-- The host has asked for this outcome after a poll saw it, and neither asked before nor
cancelled. -/
def Claimed : Prop := ∃ before after, ss = before ++ .complete :: after ∧ Unclaimed polls before r

variable {polls ss r} {s : Step}

theorem ended_snoc :
    Ended polls (ss ++ [s]) r ↔ Ended polls ss r ∨ (∃ d, s = .poll d) ∧ Sees polls ss r := by
  constructor
  · rintro ⟨earlier, d, later, hss, hsees⟩
    rcases snoc_eq_append_cons.1 hss with ⟨-, rfl, rfl⟩ | ⟨later, -, rfl⟩
    · exact .inr ⟨⟨d, rfl⟩, hsees⟩
    · exact .inl ⟨earlier, d, later, rfl, hsees⟩
  · rintro (⟨earlier, d, later, rfl, hsees⟩ | ⟨⟨d, rfl⟩, hsees⟩)
    · exact ⟨earlier, d, later ++ [s], by simp, hsees⟩
    · exact ⟨ss, d, [], rfl, hsees⟩

theorem claimed_snoc : Claimed polls (ss ++ [s]) r ↔
    Claimed polls ss r ∨ s = .complete ∧ Unclaimed polls ss r := by
  constructor
  · rintro ⟨before, after, hss, hu⟩
    rcases snoc_eq_append_cons.1 hss with ⟨-, rfl, rfl⟩ | ⟨after, -, rfl⟩
    · exact .inr ⟨rfl, hu⟩
    · exact .inl ⟨before, after, rfl, hu⟩
  · rintro (⟨before, after, rfl, hu⟩ | ⟨rfl, hu⟩)
    · exact ⟨before, after ++ [s], by simp, hu⟩
    · exact ⟨ss, [], rfl, hu⟩

theorem Ended.not_unresolved (unfreed : .free ∉ ss) (he : Ended polls ss r) :
    ¬ Unresolved polls ss := by
  obtain ⟨earlier, d, later, rfl, hsees⟩ := he
  exact not_unresolved_of_sees (fun h => unfreed (List.mem_append_left _ h)) hsees

theorem Unclaimed.ended (hu : Unclaimed polls ss r) : Ended polls ss r := by
  obtain ⟨earlier, d, later, hss, hsees, -⟩ := hu
  exact ⟨earlier, d, later, hss, hsees⟩

theorem Unclaimed.eq_of_sees {earlier : List Step} {r' : Except Fault α}
    (hu : Unclaimed polls ss r) (sees : Sees polls earlier r') : r = r' := by
  obtain ⟨_, _, _, _, sees', _⟩ := hu
  exact sees'.unique sees

theorem Claimed.not_unclaimed (unfreed : .free ∉ ss) (hc : Claimed polls ss r)
    (r' : Except Fault α) : ¬ Unclaimed polls ss r' := by
  obtain ⟨before, after, rfl, hu⟩ := hc
  exact not_unclaimed_of_over (.inr rfl) (fun h => unfreed (List.mem_append_left _ h)) hu

end Outcome

/-- What has become of the buffer of an outcome: which buffers were handed to the host in its place,
and which blocks were given back. -/
inductive Custody (polls : List (InnerPoll Buffer)) (ss : List Step) (r : Except Fault Buffer)
    (b : Buffer) : List Buffer → List Nat → Prop
  /-- The future still holds it, or has not come to it. -/
  | kept : (Ended polls ss r → Unclaimed polls ss r) → Custody polls ss r b [] []
  /-- The host has it. -/
  | handed : Claimed polls ss r → Custody polls ss r b [b] []
  /-- The future has given it up. -/
  | given : Ended polls ss r → ¬ Claimed polls ss r → ¬ Unclaimed polls ss r →
    Custody polls ss r b [] (givenUp r)

section Custody

variable {polls : List (InnerPoll Buffer)} {ss : List Step} {r : Except Fault Buffer} {b : Buffer}
  {handed : List Buffer} {given : List Nat} {s : Step}

theorem Custody.of_unclaimed (c : Custody polls ss r b handed given) (unfreed : .free ∉ ss)
    (hu : Unclaimed polls ss r) : handed = [] ∧ given = [] ∧ ¬ Claimed polls ss r := by
  have hc : ¬ Claimed polls ss r := fun hc => hc.not_unclaimed unfreed r hu
  cases c with
  | kept _ => exact ⟨rfl, rfl, hc⟩
  | handed hc' => exact absurd hc' hc
  | given _ _ hu' => exact absurd hu hu'

/-- What has become of it in the end, when the future holds nothing any more. -/
theorem Custody.settled (c : Custody polls ss r b handed given) (ended : Ended polls ss r)
    (hu : ¬ Unclaimed polls ss r) : (Claimed polls ss r → handed = [b] ∧ given = []) ∧
      (¬ Claimed polls ss r → handed = [] ∧ given = givenUp r) := by
  cases c with
  | kept hk => exact absurd (hk ended) hu
  | handed hc => exact ⟨fun _ => ⟨rfl, rfl⟩, fun hc' => absurd hc hc'⟩
  | given _ hc _ => exact ⟨fun hc' => absurd hc' hc, fun _ => ⟨rfl, rfl⟩⟩

/-- The buffer stays where it is if the host does not ask for it or give it up. -/
theorem Custody.stays (c : Custody polls ss r b handed given) (unfreed : .free ∉ ss)
    (hs : Unclaimed polls ss r → s ≠ .cancel ∧ s ≠ .complete) :
    Custody polls (ss ++ [s]) r b handed given := by
  cases c with
  | kept hk =>
    refine .kept (fun he => unclaimed_snoc.2 ?_)
    rcases ended_snoc.1 he with he | hsees
    · exact .inr ⟨hk he, hs (hk he)⟩
    · exact .inl hsees
  | handed hc => exact .handed (claimed_snoc.2 (.inl hc))
  | given he hc hu =>
    refine .given (ended_snoc.2 (.inl he)) ?_ ?_
    · rw [claimed_snoc]
      exact fun h => h.elim hc (fun h => hu h.2)
    · rw [unclaimed_snoc]
      rintro (⟨-, hsees⟩ | ⟨hu', -⟩)
      · exact he.not_unresolved unfreed hsees.1
      · exact hu hu'

section Step

variable {f : Future Buffer} {h : Heap} {a : Nat} {earlier : List Step}
  (c : Custody polls ss r b handed given) (st : Stands polls ss f) (unfreed : .free ∉ ss)
  (sees : Sees polls earlier r) (holds : carried r = some b)

include c st unfreed sees holds

/-- What a state holds is given up: the outcome, if the host has not asked for it, or nothing. -/
theorem Custody.release (layout : b.check = .ok ()) (h : Heap) :
    let h' := (Future.release f.state h).2
    h'.next = h.next ∧
      (Unclaimed polls ss r ∧ h'.released = h.released ++ givenUp r ∨
        ¬ Unclaimed polls ss r ∧ h'.released = h.released) := by
  intro h'
  cases st with
  | running hu hs _ =>
    have hh' : h' = h := by simp only [h', hs]; rfl
    rw [hh']
    exact ⟨rfl, .inr ⟨fun hr => hr.not_unresolved unfreed hu, rfl⟩⟩
  | consumed _ hnone hs =>
    have hh' : h' = h := by simp only [h', hs]; rfl
    rw [hh']
    exact ⟨rfl, .inr ⟨hnone r, rfl⟩⟩
  | @complete r' hr hs _ =>
    obtain rfl := hr.eq_of_sees sees
    have hlayout : ∀ b', r' = .error (.domain b') → b'.check = .ok () := by
      rintro b' rfl
      obtain rfl : b' = b := Option.some.inj holds
      exact layout
    obtain ⟨hreleased, hnext⟩ := release_of_complete hlayout h
    simp only [h', hs]
    exact ⟨hnext, .inl ⟨hr, hreleased⟩⟩

/-- A cancel gives the outcome up, if the host has not asked for it. -/
theorem Custody.cancel (layout : b.check = .ok ()) (h : Heap) :
    let h' := (FutureRun.step Buffer.unallocated ⟨f, false⟩ .cancel h).2
    h.next ≤ h'.next ∧ ∃ given', h'.released = h.released ++ given' ∧
      Custody polls (ss ++ [.cancel]) r b handed (given ++ given') := by
  intro h'
  obtain ⟨hnext, hreleased⟩ := c.release st unfreed sees holds layout h
  refine ⟨Nat.le_of_eq hnext.symm, ?_⟩
  rcases hreleased with ⟨hu, hreleased⟩ | ⟨hu, hreleased⟩
  · obtain ⟨rfl, rfl, hc⟩ := c.of_unclaimed unfreed hu
    refine ⟨givenUp r, hreleased, .given (ended_snoc.2 (.inl hu.ended)) ?_ ?_⟩
    · rw [claimed_snoc]
      exact fun h => h.elim hc (fun h => nomatch h.1)
    · exact not_unclaimed_of_over (.inl rfl) unfreed hu
  · refine ⟨[], hreleased.trans (List.append_nil _).symm, ?_⟩
    rw [List.append_nil]
    exact c.stays unfreed (fun hu' => absurd hu' hu)

/-- A request for the result gets the buffer of the outcome, unless the host has had it before. -/
theorem Custody.complete (data : b.address? = some a) :
    Custody polls (ss ++ [.complete]) r b
      (handed ++ (carried f.state.outcome).toList.filter (·.address? = some a)) given := by
  have hother : carried f.state.outcome = none → ¬ Unclaimed polls ss r →
      Custody polls (ss ++ [.complete]) r b
        (handed ++ (carried f.state.outcome).toList.filter (·.address? = some a)) given := by
    intro hnone hu
    rw [hnone]
    simpa using c.stays unfreed (s := .complete) (fun hu' => absurd hu' hu)
  cases st with
  | running hu hs _ => exact hother (by rw [hs]; rfl) (fun hr => hr.not_unresolved unfreed hu)
  | consumed _ hnone hs => exact hother (by rw [hs]; rfl) (hnone r)
  | @complete r' hr hs _ =>
    obtain rfl := hr.eq_of_sees sees
    obtain ⟨rfl, rfl, -⟩ := c.of_unclaimed unfreed hr
    have hb : carried f.state.outcome = some b := by rw [hs]; exact holds
    rw [hb]
    simpa [List.filter, data] using Custody.handed (claimed_snoc.2 (.inr ⟨rfl, hr⟩))

/-- **One step** of a run, and what it does with the buffer. -/
theorem Custody.step (hs : s ≠ .free) (layout : b.check = .ok ()) (data : b.address? = some a)
    (old : a < h.next) :
    let out := FutureRun.step .unallocated ⟨f, false⟩ s h
    h.next ≤ out.2.next ∧ ∃ given', out.2.released = h.released ++ given' ∧
      Custody polls (ss ++ [s]) r b
        (handed ++ out.1.1.1.buffers.filter (·.address? = some a)) (given ++ given') := by
  intro out
  by_cases hcomplete : s = .complete
  · subst hcomplete
    obtain ⟨hreleased, hnext⟩ := step_complete_heap f h
    refine ⟨hnext, [], hreleased.trans (List.append_nil _).symm, ?_⟩
    rw [List.append_nil, show out.1.1.1.buffers.filter _ = _ from step_complete_buffers f old]
    exact c.complete st unfreed sees holds data
  · have hnothing : out.1.1.1.buffers = [] := step_buffers f hcomplete h
    rw [hnothing, List.filter_nil, List.append_nil]
    by_cases hcancel : s = .cancel
    · subst hcancel
      exact c.cancel st unfreed sees holds layout h
    · rw [show out.2 = h from step_heap f hcancel hcomplete hs h]
      refine ⟨Nat.le_refl _, [], (List.append_nil _).symm, ?_⟩
      rw [List.append_nil]
      exact c.stays unfreed (fun _ => ⟨hcancel, hcomplete⟩)

end Step

end Custody

namespace FutureRun

section Runs

variable {polls : List (InnerPoll Buffer)} {ss : List Step} {r : Except Fault Buffer} {b : Buffer}
  {a : Nat} {h : Heap} {earlier : List Step}

/-- **A run** of a future that is not freed, and what it does with the buffer. -/
theorem custody_after (unfreed : .free ∉ ss) (sees : Sees polls earlier r)
    (holds : carried r = some b) (layout : b.check = .ok ()) (data : b.address? = some a)
    (old : a < h.next) :
    let out := (new polls).steps .unallocated ss h
    h.next ≤ out.2.next ∧ ∃ given, out.2.released = h.released ++ given ∧
      Custody polls ss r b (handedAt a out.1.1) given := by
  induction ss using List.reverseRecOn with
  | nil =>
    refine ⟨Nat.le_refl _, [], (List.append_nil _).symm, .kept ?_⟩
    rintro ⟨_, _, _, hss, _⟩
    simp at hss
  | append_singleton ss s ih =>
    simp only [List.mem_append, List.mem_singleton, not_or] at unfreed
    obtain ⟨hnext, given, hreleased, c⟩ := ih unfreed.1
    obtain ⟨hnext', given', hreleased', c'⟩ := c.step (stands_after polls unfreed.1) unfreed.1 sees
      holds (Ne.symm unfreed.2) layout data (Nat.lt_of_lt_of_le old hnext)
    have hlast : (new polls).steps .unallocated (ss ++ [s]) h = _ :=
      steps_snoc_course _ unfreed.1 s h
    rw [hlast]
    refine ⟨Nat.le_trans hnext hnext', given ++ given', ?_, ?_⟩
    · exact hreleased'.trans (by rw [hreleased, List.append_assoc])
    · show Custody polls (ss ++ [s]) r b (handedAt a (_ ++ [_])) _
      rw [handedAt_snoc]
      exact c'

end Runs

/-- **A buffer is handed over or given back**, unless it is a value that nobody asked for.  A
computation ended with a buffer while the host polled, cancelled, asked for the result and at last
freed the future.  If the host asked for the outcome in time, the buffer was handed over once and
never given back.  If not, it was never handed over; a declared error was given back once, by a
cancel or when the future was freed, but of a value nothing was given back. -/
theorem handed_over_or_given_back (polls : List (InnerPoll Buffer)) (ss : List Step) (h : Heap)
    (unfreed : .free ∉ ss) {r : Except Fault Buffer} (ended : Ended polls ss r) {b : Buffer}
    (holds : carried r = some b) (layout : b.check = .ok ()) {a : Nat}
    (data : b.address? = some a) (old : a < h.next) :
    let out := (new polls).steps .unallocated (ss ++ [.free]) h
    ∃ given, out.2.released = h.released ++ given ∧
      (Claimed polls ss r → handedAt a out.1.1 = [b] ∧ given = []) ∧
      (¬ Claimed polls ss r → r = .error (.domain b) → handedAt a out.1.1 = [] ∧ given = [a]) ∧
      (¬ Claimed polls ss r → r = .ok b → handedAt a out.1.1 = [] ∧ given = []) ∧
      ∀ before s after, ss = before ++ s :: after → s ≠ .cancel →
        ((new polls).steps .unallocated (before ++ [s]) h).2.released =
          ((new polls).steps .unallocated before h).2.released := by
  intro out
  have ⟨earlier, _, _, _, sees⟩ := ended
  obtain ⟨-, given, hreleased, c⟩ := custody_after unfreed sees holds layout data old
  obtain ⟨-, hfree⟩ := c.release (stands_after polls unfreed) unfreed sees holds layout
    ((new polls).steps .unallocated ss h).2
  have hlast : out = _ := steps_snoc_course _ unfreed .free h
  have hheap : out.2 = _ := congrArg Prod.snd hlast
  have hhanded : handedAt a out.1.1 = handedAt a ((new polls).steps .unallocated ss h).1.1 := by
    rw [hlast]
    exact (handedAt_snoc ..).trans (List.append_nil _)
  have hsettled : ∃ given, out.2.released = h.released ++ given ∧
      (Claimed polls ss r → handedAt a out.1.1 = [b] ∧ given = []) ∧
      (¬ Claimed polls ss r → handedAt a out.1.1 = [] ∧ given = givenUp r) := by
    rcases hfree with ⟨hu, hfree⟩ | ⟨hu, hfree⟩
    · -- the future holds the outcome to the end, and gives it up then
      obtain ⟨hnone, rfl, hc⟩ := c.of_unclaimed unfreed hu
      refine ⟨givenUp r, ?_, fun hc' => absurd hc' hc, fun _ => ⟨hhanded.trans hnone, rfl⟩⟩
      rw [hheap, ← List.append_nil h.released, ← hreleased]
      exact hfree
    · refine ⟨given, ?_, hhanded ▸ c.settled ended hu⟩
      rw [hheap, ← hreleased]
      exact hfree
  obtain ⟨given, hout, hclaimed, hunclaimed⟩ := hsettled
  refine ⟨given, hout, hclaimed, ?_, ?_, ?_⟩
  · rintro hc rfl
    simpa [givenUp, data] using hunclaimed hc
  · rintro hc rfl
    exact hunclaimed hc
  · rintro before s after rfl hs
    simp only [List.mem_append, List.mem_cons, not_or] at unfreed
    have hlast : (new polls).steps .unallocated (before ++ [s]) h = _ :=
      steps_snoc_course _ unfreed.1 s h
    rw [hlast]
    exact step_released _ hs (Ne.symm unfreed.2.1) _

/-- A declared error that the host does not ask for is given back by its cancel. -/
theorem given_back_on_cancel :
    let b : Buffer := .ofBlock ⟨5, [1, 2], 0⟩
    let polls : List (InnerPoll Buffer) := [{}, { ends := .resolved (.error (.domain b)) }]
    let ss : List Step := [.poll 1, .poll 2, .cancel]
    let h : Heap := { next := 6, live := [5] }
    let out := (new polls).steps .unallocated (ss ++ [.free]) h
    .free ∉ ss ∧ Ended polls ss (.error (.domain b)) ∧ 5 < h.next ∧
      handedAt 5 out.1.1 = [] ∧ out.2.released = [5] := by
  intro b polls ss h out
  have unfreed : Step.free ∉ ss := by decide
  have hpending : ∀ i < 1, endOf polls i = none := by decide
  have ended : Ended polls ss (.error (.domain b)) :=
    ⟨[.poll 1], 2, [.cancel], rfl, ⟨by decide, hpending⟩, rfl⟩
  have hclaimed : ¬ Claimed polls ss (.error (.domain b)) := by
    rintro ⟨before, after, hss, -⟩
    have hc : .complete ∈ ss := by simp [hss]
    revert hc
    decide
  have old : 5 < h.next := by decide
  obtain ⟨given, hreleased, -, hgiven, -⟩ :=
    handed_over_or_given_back polls ss h unfreed ended (b := b) rfl rfl rfl old
  obtain ⟨hhanded, rfl⟩ := hgiven hclaimed rfl
  exact ⟨unfreed, ended, old, hhanded, hreleased⟩

/-- A value that nobody asks for is neither handed over nor given back when the future is freed: its
block stays live. -/
theorem value_lost :
    let b : Buffer := .ofBlock ⟨5, [1, 2], 0⟩
    let polls : List (InnerPoll Buffer) := [{ ends := .resolved (.ok b) }]
    let out := (new polls).steps .unallocated [.poll 1, .free] { next := 6, live := [5] }
    Ended polls [.poll 1] (.ok b) ∧ handedAt 5 out.1.1 = [] ∧ out.2.released = [] ∧
      out.2.live = [5] :=
  ⟨⟨[], 1, [], rfl, ⟨by decide, by decide⟩, rfl⟩, rfl, rfl, rfl⟩

end FutureRun

end CallBoundary.Native
