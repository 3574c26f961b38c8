import CallBoundary.Proofs.Host.Task

/-!
# A call and its native task in step

A call awaits a native task while wake-ups come as they like, during polls and between them, and the
executor polls the call whenever it likes.  The two sides keep step with each other: the call is
about to poll exactly when nobody waits for the task, and waits exactly for the continuation that
the task's scheduler holds, which is then the only one of its continuations in the table.  `Stage`
lists where the two can be; the lemmas after it say how one stage follows another.
-/

namespace CallBoundary.Host

open Native NativeTask

/-! ### Runs -/

/-- What can happen to a call and its task. -/
inductive AwaitStep where
  /-- The executor polls the call. -/
  | resume
  /-- The task wakes up, whether or not anybody waits for it. -/
  | wake
  | drop
deriving DecidableEq, Repr

/-- As many wake-ups, each followed by a poll of the executor. -/
def AwaitStep.rounds : Nat → List AwaitStep
  | 0 => []
  | b + 1 => .wake :: .resume :: rounds b

/-- A call with what came of it. -/
structure TaskRun (α : Type) where
  call : AsyncCall NativeTask
  outcome : Option (Except CallError α) := none
  /-- Whether it was dropped before it was finished. -/
  dropped : Bool := false

/-- A way to lift what a call returned that depends on nothing else and leaves the future alone. -/
structure Lifts (lift : Lowered → EStateM WireError NativeTask α)
    (lifted : Lowered → Except WireError α) : Prop where
  outcome_eq : ∀ l t, outcome (lift l) t = lifted l
  keeps : ∀ l, Keeps (fun t : NativeTask => (t.future, t.events)) (attempt (lift l))

/-- Lifting whole values is such a way. -/
theorem liftWhole_lifts (S : Schema) (t : WireType) :
    Lifts (S.liftWhole NativeTask.allocator t) (wholeValue S t) where
  outcome_eq := liftWhole_outcome S NativeTask.allocator_accepts t
  keeps := liftWhole_keeps S allocator_keeps t

namespace TaskRun

/-- A call that nobody has polled, over any table of continuations. -/
def start (native : NativeTask) (continuations : HandleTable Unit) : TaskRun α :=
  { call := { native, continuations } }

/-- What a poll of the executor gave is noted. -/
def took (r : TaskRun α) (out : PollOutcome α × AsyncCall NativeTask) : TaskRun α :=
  { r with
    call := out.2
    outcome := match out.1 with
      | .ready x => some x
      | _ => r.outcome }

variable (S : Schema) (errorType : WireType) (lift : Lowered → EStateM WireError NativeTask α)

/-- One step. -/
def step (r : TaskRun α) : AwaitStep → TaskRun α
  | .resume => r.took (r.call.poll entries S NativeTask.allocator errorType lift)
  | .wake => { r with call := r.call.wake }
  | .drop =>
    let (pending, call) := r.call.drop entries
    { r with call, dropped := r.dropped || pending }

/-- Some steps, one after the other. -/
def steps (r : TaskRun α) (ss : List AwaitStep) : TaskRun α := ss.foldl (step S errorType lift) r

theorem steps_append (r : TaskRun α) (ss ss' : List AwaitStep) :
    r.steps S errorType lift (ss ++ ss') =
      (r.steps S errorType lift ss).steps S errorType lift ss' :=
  List.foldl_append

end TaskRun

/-! ### Where the two sides are -/

/-- The events of polls that were answered with a request for another. -/
def again (hs : List Handle) : List Event :=
  hs.flatMap fun h => [.polled, .fired ⟨h, .maybeReady⟩]

theorem again_append (hs hs' : List Handle) : again (hs ++ hs') = again hs ++ again hs' :=
  List.flatMap_append

/-- The events of a task that was polled with the handles from this one on and ended with the poll
after `n` others: each poll of the host polls the computation once and is answered once. -/
def wholeTrace (next : Handle) (n : Nat) : List Event :=
  again (handlesFrom next n) ++ [.polled, .dropped, .fired ⟨next + UInt64.ofNat n, .ready⟩]

section Stages

variable (T : HandleTable Unit) (o : Except Fault Lowered) (n : Nat)

/-- The call has made so many polls and is not over. -/
structure Underway (m : Nat) (r : TaskRun α) : Prop where
  calls : r.call.calls = (handlesFrom T.next m).map .poll
  next : r.call.continuations.next = T.next + UInt64.ofNat m
  outcome : r.outcome = none
  dropped : r.dropped = false

/-- The call is to poll the task, which will be pending `k` times more, and nobody waits for it. -/
structure ToPoll (m k : Nat) (r : TaskRun α) : Prop extends Underway T m r where
  total : m + k = n
  phase : r.call.phase = .unstarted ∨ r.call.phase = .answered PollCode.maybeReady.toInt8
  due : Due o k r.call.native
  free : r.call.native.future.scheduler.Free
  table : r.call.continuations.entries = T.entries
  events : r.call.native.events = again (handlesFrom T.next m)

/-- The call waits for its last poll, whose continuation the scheduler holds. -/
structure Parked (m k : Nat) (r : TaskRun α) : Prop extends Underway T (m + 1) r where
  total : m + 1 + k = n
  phase : r.call.phase = .waiting (T.next + UInt64.ofNat m)
  due : Due o k r.call.native
  scheduler : r.call.native.future.scheduler = .waiting (T.next + UInt64.ofNat m)
  table : r.call.continuations.entries = (T.next + UInt64.ofNat m, ()) :: T.entries
  events : r.call.native.events = again (handlesFrom T.next m) ++ [.polled]

/-- The result is there and was announced. -/
structure Announced (r : TaskRun α) : Prop extends Underway T (n + 1) r where
  phase : r.call.phase = .answered PollCode.ready.toInt8
  state : r.call.native.future.state = .complete (settled o)
  free : r.call.native.future.scheduler.Free
  table : r.call.continuations.entries = T.entries
  events : r.call.native.events = wholeTrace T.next n

/-- The call is over: none of its continuations is left, and nobody waits. -/
structure Over (r : TaskRun α) : Prop where
  phase : r.call.phase = .over
  table : r.call.continuations.entries = T.entries
  scheduler : ∀ h, r.call.native.future.scheduler ≠ .waiting h

/-- The result was collected. -/
structure Finished (x : Except CallError α) (r : TaskRun α) : Prop extends Over T r where
  calls : r.call.calls = (handlesFrom T.next (n + 1)).map .poll ++ [.complete, .free]
  events : r.call.native.events = wholeTrace T.next n
  outcome : r.outcome = some x
  dropped : r.dropped = false

/-- **Where a call and its task can be** between two steps. -/
inductive Stage (x : Except CallError α) (r : TaskRun α) : Prop
  | toPoll (m k : Nat) : ToPoll T o n m k r → Stage x r
  | parked (m k : Nat) : Parked T o n m k r → Stage x r
  | announced : Announced T o n r → Stage x r
  | finished : Finished T n x r → Stage x r
  | dropped : Over T r → r.outcome = none → r.dropped = true → Stage x r

end Stages

/-! ### The loop -/

section Looping

variable {T : HandleTable Unit} {o : Except Fault Lowered} {n m k : Nat} {r : TaskRun α}

theorem polls_succ (next : Handle) (m : Nat) :
    (handlesFrom next m).map FutureCall.poll ++ [.poll (next + UInt64.ofNat m)] =
      (handlesFrom next (m + 1)).map .poll := by
  rw [handlesFrom_succ, List.map_append]
  rfl

/-- What comes of one native poll: the call waits, or it is to poll again, or it is told that the
result is there. -/
theorem ToPoll.issue (p : ToPoll T o n m k r)
    (fresh : ∀ e ∈ T.entries, e.1 ∉ handlesFrom T.next (n + 1)) :
    let r' := { r with call := AsyncCall.issue entries r.call }
    (∃ k', k = k' + 1 ∧ (Parked T o n m k' r' ∨ ToPoll T o n (m + 1) k' r')) ∨
      k = 0 ∧ Announced T o n r' := by
  have hn := p.total
  have hfresh : ∀ e ∈ r.call.continuations.entries, e.1 ≠ r.call.continuations.next := by
    rw [p.table, p.next]
    exact ne_of_fresh fresh (by omega)
  have hcalls := congrArg (· ++ [FutureCall.poll (T.next + UInt64.ofNat m)]) p.calls
  simp only [polls_succ] at hcalls
  have hnext : r.call.continuations.next + 1 = T.next + UInt64.ofNat (m + 1) := by
    rw [p.next, next_succ]
  rcases hp : entries.poll r.call.continuations.next r.call.native with ⟨answers, t⟩
  cases k with
  | zero =>
    -- the last poll is answered at once, and its continuation comes and goes
    right
    have hdue := poll_due_zero r.call.continuations.next p.due p.free
    rw [hp] at hdue
    obtain ⟨rfl, hstate, hfree, hevents⟩ := hdue
    refine ⟨rfl, ?_⟩
    rw [AsyncCall.issue_answered r.call entries hp]
    have hm : m = n := hn
    subst hm
    refine ⟨⟨?_, hnext, p.outcome, p.dropped⟩, rfl, hstate, hfree, ?_, ?_⟩
    · rw [p.next]
      exact hcalls
    · exact (HandleTable.entries_erase_insert () hfresh).trans p.table
    · rw [hevents, p.events, p.next]
      rfl
  | succ k =>
    left
    refine ⟨k, rfl, ?_⟩
    have hdue := poll_due r.call.continuations.next p.due p.free
    rw [hp] at hdue
    obtain ⟨hdue, ⟨rfl, hsched, hevents⟩ | ⟨rfl, hfree, hevents⟩⟩ := hdue
    · left
      rw [AsyncCall.issue_unanswered r.call entries hp]
      refine ⟨⟨?_, hnext, p.outcome, p.dropped⟩, by omega, ?_, hdue, ?_, ?_, ?_⟩
      · rw [p.next]
        exact hcalls
      · rw [p.next]
      · rw [hsched, p.next]
      · rw [← p.next, ← p.table]
        exact HandleTable.entries_insert () hfresh
      · rw [hevents, p.events]
    · right
      rw [AsyncCall.issue_answered r.call entries hp]
      refine ⟨⟨?_, hnext, p.outcome, p.dropped⟩, by omega, .inr rfl, hdue, hfree, ?_, ?_⟩
      · rw [p.next]
        exact hcalls
      · exact (HandleTable.entries_erase_insert () hfresh).trans p.table
      · rw [hevents, p.events, p.next, handlesFrom_succ, again_append]
        rfl

variable (S : Schema) (errorType : WireType) {lift : Lowered → EStateM WireError NativeTask α}
  {lifted : Lowered → Except WireError α}

/-- A call that is told that the result is there collects it. -/
theorem Announced.finish (a : Announced T o n r) (hl : Lifts lift lifted) (fuel : Nat) :
    Finished T n (report S errorType lifted (settled o)) (r.took
      (AsyncCall.advance entries S NativeTask.allocator errorType lift (fuel + 1) r.call)) := by
  have hcomplete := complete_eq a.state
  obtain ⟨t, hkeep, hfinish⟩ :=
    finish_keeps S errorType allocator_keeps hl.keeps entries r.call
  have hresult := finish_outcome S NativeTask.allocator_accepts errorType hl.outcome_eq entries
    r.call
  rw [hcomplete] at hkeep hresult
  rw [accepting_run] at hresult
  obtain ⟨hfuture, hevents⟩ := Prod.mk.inj hkeep
  have hfree : entries.free t = ((), t) := free_consumed (by rw [hfuture])
  rw [AsyncCall.free_eq _ entries hfree] at hfinish
  rw [AsyncCall.advance_ready a.phase, hresult, hfinish]
  refine ⟨⟨rfl, a.table, ?_⟩, ?_, ?_, rfl, a.dropped⟩
  · intro h
    show t.future.scheduler ≠ .waiting h
    rw [hfuture]
    exact a.free.ne_waiting h
  · show (r.call.calls ++ [.complete]) ++ [.free] = _
    rw [a.calls, List.append_assoc]
    rfl
  · exact hevents.trans a.events

/-- **The loop** polls the task as long as it is asked to at once: then the call waits for a task
that is nearer to its end, or it is over. -/
theorem ToPoll.advance (p : ToPoll T o n m k r) (hl : Lifts lift lifted)
    (fresh : ∀ e ∈ T.entries, e.1 ∉ handlesFrom T.next (n + 1)) {fuel : Nat} (hf : k + 2 ≤ fuel) :
    let r' := r.took (AsyncCall.advance entries S NativeTask.allocator errorType lift fuel r.call)
    (∃ m' k', k' < k ∧ Parked T o n m' k' r') ∨
      Finished T n (report S errorType lifted (settled o)) r' := by
  induction fuel generalizing m k r with
  | zero => omega
  | succ fuel ih =>
    rw [AsyncCall.advance_issue p.phase]
    obtain ⟨k', rfl, hw | hp⟩ | ⟨rfl, ha⟩ := p.issue fresh
    · left
      rw [AsyncCall.advance_waiting hw.phase]
      exact ⟨m, k', Nat.lt_succ_self _, hw⟩
    · rcases ih hp (by omega) with ⟨m', k'', hlt, hw⟩ | hfin
      · exact .inl ⟨m', k'', by omega, hw⟩
      · exact .inr hfin
    · right
      obtain ⟨fuel, rfl⟩ : ∃ f, fuel = f + 1 := ⟨fuel - 1, by omega⟩
      exact ha.finish S errorType hl fuel

end Looping

/-! ### The steps -/

section Stepping

variable {T : HandleTable Unit} {o : Except Fault Lowered} {n m k : Nat} {r : TaskRun α}

/-- A wake-up asks the call that waits to poll again. -/
theorem Parked.wake (p : Parked T o n m k r)
    (fresh : ∀ e ∈ T.entries, e.1 ∉ handlesFrom T.next (n + 1)) :
    ToPoll T o n (m + 1) k { r with call := r.call.wake } := by
  have hn := p.total
  have hfresh := ne_of_fresh (i := m) fresh (by omega)
  rw [AsyncCall.wake_of_waiting p.scheduler]
  let woken : AsyncCall NativeTask := { r.call with
    native := r.call.native.after ([.fired ⟨T.next + UInt64.ofNat m, .maybeReady⟩],
      { r.call.native.future with scheduler := .idle }) }
  obtain ⟨wakes, hfire⟩ := woken.fire_eq ⟨T.next + UInt64.ofNat m, PollCode.maybeReady.toInt8⟩
  rw [woken.receive_of_waiting _ (HandleTable.find?_of_cons p.table) p.phase] at hfire
  rw [hfire]
  refine ⟨⟨p.calls, p.next, p.outcome, p.dropped⟩, by omega, .inr rfl, p.due.congr rfl rfl rfl,
    .inl rfl, HandleTable.entries_erase_of_cons p.table hfresh, ?_⟩
  show r.call.native.events ++ [.fired ⟨T.next + UInt64.ofNat m, .maybeReady⟩] = _
  rw [p.events, handlesFrom_succ, again_append, List.append_assoc]
  rfl

theorem ToPoll.wake (p : ToPoll T o n m k r) :
    ToPoll T o n m k { r with call := r.call.wake } := by
  rw [AsyncCall.wake_of_quiet p.free.ne_waiting]
  refine ⟨⟨p.calls, p.next, p.outcome, p.dropped⟩, p.total, p.phase, p.due.congr rfl rfl rfl, ?_,
    p.table, (List.append_nil _).trans p.events⟩
  right
  exact congrArg Prod.snd p.free.wake

theorem Announced.wake (a : Announced T o n r) :
    Announced T o n { r with call := r.call.wake } := by
  rw [AsyncCall.wake_of_quiet a.free.ne_waiting]
  refine ⟨⟨a.calls, a.next, a.outcome, a.dropped⟩, a.phase, a.state, ?_, a.table,
    (List.append_nil _).trans a.events⟩
  right
  exact congrArg Prod.snd a.free.wake

/-- Nothing that a task does reaches a call that is over. -/
theorem Over.wake (v : Over T r) :
    Over T { r with call := r.call.wake } ∧ r.call.wake.calls = r.call.calls ∧
      r.call.wake.native.events = r.call.native.events := by
  have hs : ∀ h, r.call.native.future.scheduler.wake.2 ≠ .waiting h := by
    intro h
    cases hs : r.call.native.future.scheduler with
    | idle => nofun
    | woken => nofun
    | waiting h' => exact absurd hs (v.scheduler h')
    | cancelled => nofun
  rw [AsyncCall.wake_of_quiet v.scheduler]
  exact ⟨⟨v.phase, v.table, hs⟩, rfl, List.append_nil _⟩

/-- A call that is dropped leaves none of its continuations behind. -/
theorem Parked.drop (p : Parked T o n m k r)
    (fresh : ∀ e ∈ T.entries, e.1 ∉ handlesFrom T.next (n + 1)) :
    (r.call.drop entries).1 = true ∧ Over T { r with call := (r.call.drop entries).2 } := by
  have hn := p.total
  rw [AsyncCall.drop_waiting p.phase]
  refine ⟨rfl, AsyncCall.abandon_phase r.call entries, ?_, AsyncCall.abandon_ne_waiting r.call⟩
  show (AsyncCall.abandon entries r.call).continuations.entries = T.entries
  rw [AsyncCall.abandon_table_of_waiting p.scheduler (HandleTable.find?_of_cons p.table)]
  exact HandleTable.entries_erase_of_cons p.table (ne_of_fresh fresh (by omega))

/-- A call that nobody answers any more is given up, or never began. -/
theorem drop_of_free (hfree : r.call.native.future.scheduler.Free)
    (htable : r.call.continuations.entries = T.entries)
    (hp : r.call.phase = .unstarted ∨ ∃ code, r.call.phase = .answered code) :
    (r.call.drop entries).1 = true ∧ Over T { r with call := (r.call.drop entries).2 } := by
  rcases hp with hp | ⟨code, hp⟩
  · rw [AsyncCall.drop_unstarted hp]
    exact ⟨rfl, rfl, htable, hfree.ne_waiting⟩
  · rw [AsyncCall.drop_answered hp]
    refine ⟨rfl, AsyncCall.abandon_phase r.call entries, ?_, AsyncCall.abandon_ne_waiting r.call⟩
    exact (congrArg HandleTable.entries (AsyncCall.abandon_table_of_free hfree)).trans htable

end Stepping

end CallBoundary.Host
