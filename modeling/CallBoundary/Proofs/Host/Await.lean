import CallBoundary.Proofs.Host.Lockstep
import CallBoundary.Sample.Types

/-!
# Awaiting a task

Every step keeps a call and its task in step (`Stage.steps`), and each wake-up with a poll after it
brings the task nearer to its end (`Nearer.rounds`).  So a task that is pending for `n` polls takes
`n + 1` of them, and what the call comes to depends on the outcome of the task only:
`awaited_alike`.
-/

namespace CallBoundary.Host

open Native NativeTask

/-! ### The steps -/

section Stepping

variable {T : HandleTable Unit} {o : Except Fault Lowered} {n m k : Nat} {r : TaskRun α}
variable (S : Schema) (errorType : WireType) {lift : Lowered → EStateM WireError NativeTask α}
  {lifted : Lowered → Except WireError α}

/-- After a poll by the executor the call waits for a task that is nearer to its end, or is over. -/
theorem ToPoll.resume (p : ToPoll T o n m k r) (hl : Lifts lift lifted)
    (fresh : ∀ e ∈ T.entries, e.1 ∉ handlesFrom T.next (n + 1)) :
    let r' := r.step S errorType lift .resume
    (∃ m' k', k' < k ∧ Parked T o n m' k' r') ∨
      Finished T n (report S errorType lifted (settled o)) r' :=
  p.advance S errorType hl fresh (Nat.add_le_add_right p.due.le_patience 2)

/-- A poll by the executor leaves a call that waits or is over as it is. -/
theorem resume_of_waiting {h : Handle} (hp : r.call.phase = .waiting h) :
    r.step S errorType lift .resume = r := by
  have hpoll : r.call.poll entries S NativeTask.allocator errorType lift = (.pending, r.call) :=
    AsyncCall.advance_waiting hp
  unfold TaskRun.step
  rw [hpoll]
  rfl

theorem resume_of_over (hp : r.call.phase = .over) : r.step S errorType lift .resume = r := by
  have hpoll : r.call.poll entries S NativeTask.allocator errorType lift = (.gone, r.call) :=
    AsyncCall.advance_over hp
  unfold TaskRun.step
  rw [hpoll]
  rfl

theorem drop_of_over (hp : r.call.phase = .over) : r.step S errorType lift .drop = r := by
  simp only [TaskRun.step, AsyncCall.drop_over hp, Bool.or_false]

/-- A call that is given up before it has come to anything is dropped. -/
theorem Stage.of_drop {x : Except CallError α} (hdrop : (r.call.drop entries).1 = true)
    (hover : Over T { r with call := (r.call.drop entries).2 }) (hnone : r.outcome = none) :
    Stage T o n x (r.step S errorType lift .drop) := by
  refine .dropped ⟨hover.phase, hover.table, hover.scheduler⟩ hnone ?_
  exact (congrArg (r.dropped || ·) hdrop).trans (Bool.or_true _)

/-- **Every step keeps the two sides together.** -/
theorem Stage.step (st : Stage T o n (report S errorType lifted (settled o)) r)
    (hl : Lifts lift lifted) (fresh : ∀ e ∈ T.entries, e.1 ∉ handlesFrom T.next (n + 1))
    (s : AwaitStep) :
    Stage T o n (report S errorType lifted (settled o)) (r.step S errorType lift s) := by
  cases st with
  | toPoll m k p =>
    cases s with
    | resume =>
      rcases p.resume S errorType hl fresh with ⟨m', k', -, hw⟩ | hfin
      · exact .parked m' k' hw
      · exact .finished hfin
    | wake => exact .toPoll m k p.wake
    | drop =>
      have hp : r.call.phase = .unstarted ∨ ∃ code, r.call.phase = .answered code :=
        p.phase.imp_right fun h => ⟨_, h⟩
      obtain ⟨hdrop, hover⟩ := drop_of_free p.free p.table hp
      exact .of_drop S errorType hdrop hover p.outcome
  | parked m k p =>
    cases s with
    | resume =>
      rw [resume_of_waiting S errorType p.phase]
      exact .parked m k p
    | wake => exact .toPoll (m + 1) k (p.wake fresh)
    | drop =>
      obtain ⟨hdrop, hover⟩ := p.drop fresh
      exact .of_drop S errorType hdrop hover p.outcome
  | announced a =>
    cases s with
    | resume => exact .finished (a.finish S errorType hl _)
    | wake => exact .announced a.wake
    | drop =>
      obtain ⟨hdrop, hover⟩ := drop_of_free a.free a.table (.inr ⟨_, a.phase⟩)
      exact .of_drop S errorType hdrop hover a.outcome
  | finished f =>
    cases s with
    | resume =>
      rw [resume_of_over S errorType f.phase]
      exact .finished f
    | wake =>
      obtain ⟨hover, hcalls, hevents⟩ := f.toOver.wake
      exact .finished ⟨hover, hcalls.trans f.calls, hevents.trans f.events, f.outcome, f.dropped⟩
    | drop =>
      rw [drop_of_over S errorType f.phase]
      exact .finished f
  | dropped v hnone hdropped =>
    cases s with
    | resume =>
      rw [resume_of_over S errorType v.phase]
      exact .dropped v hnone hdropped
    | wake => exact .dropped v.wake.1 hnone hdropped
    | drop =>
      rw [drop_of_over S errorType v.phase]
      exact .dropped v hnone hdropped

/-- **Every run keeps the two sides together.** -/
theorem Stage.steps (ss : List AwaitStep)
    (st : Stage T o n (report S errorType lifted (settled o)) r) (hl : Lifts lift lifted)
    (fresh : ∀ e ∈ T.entries, e.1 ∉ handlesFrom T.next (n + 1)) :
    Stage T o n (report S errorType lifted (settled o)) (r.steps S errorType lift ss) := by
  induction ss generalizing r with
  | nil => exact st
  | cons s ss ih => exact ih (st.step S errorType hl fresh s)

/-! ### Progress -/

/-- The call is over, or it waits for a task that will be pending less than so many times more. -/
def Nearer (T : HandleTable Unit) (o : Except Fault Lowered) (n b : Nat) (r : TaskRun α) : Prop :=
  Over T r ∨ ∃ m k, k < b ∧ Parked T o n m k r

theorem ToPoll.nearer (p : ToPoll T o n m k r) (hl : Lifts lift lifted)
    (fresh : ∀ e ∈ T.entries, e.1 ∉ handlesFrom T.next (n + 1)) :
    Nearer T o n k (r.step S errorType lift .resume) := by
  rcases p.resume S errorType hl fresh with ⟨m', k', hlt, hw⟩ | hfin
  · exact .inr ⟨m', k', hlt, hw⟩
  · exact .inl hfin.toOver

theorem Over.round (v : Over T r) : Over T (r.steps S errorType lift [.wake, .resume]) := by
  show Over T (({ r with call := r.call.wake } : TaskRun α).step S errorType lift .resume)
  rw [resume_of_over S errorType v.wake.1.phase]
  exact v.wake.1

/-- One round brings the task nearer to its end. -/
theorem Nearer.round {b : Nat} (hr : Nearer T o n (b + 1) r) (hl : Lifts lift lifted)
    (fresh : ∀ e ∈ T.entries, e.1 ∉ handlesFrom T.next (n + 1)) :
    Nearer T o n b (r.steps S errorType lift [.wake, .resume]) := by
  rcases hr with v | ⟨m, k, hk, p⟩
  · exact .inl (v.round S errorType)
  · rcases (p.wake fresh).nearer S errorType hl fresh with v | ⟨m', k', hlt, hw⟩
    · exact .inl v
    · exact .inr ⟨m', k', by omega, hw⟩

/-- After one round the call waits for less than the whole task. -/
theorem Stage.nearer (st : Stage T o n (report S errorType lifted (settled o)) r)
    (hl : Lifts lift lifted) (fresh : ∀ e ∈ T.entries, e.1 ∉ handlesFrom T.next (n + 1)) :
    Nearer T o n n (r.steps S errorType lift [.wake, .resume]) := by
  cases st with
  | toPoll m k p =>
    have hk := p.total
    rcases p.wake.nearer S errorType hl fresh with v | ⟨m', k', hlt, hw⟩
    · exact .inl v
    · exact .inr ⟨m', k', by omega, hw⟩
  | parked m k p =>
    have hk := p.total
    exact Nearer.round S errorType (.inr ⟨m, k, by omega, p⟩) hl fresh
  | announced a => exact .inl (a.wake.finish S errorType hl _).toOver
  | finished f => exact .inl (f.toOver.round S errorType)
  | dropped v _ _ => exact .inl (v.round S errorType)

/-- As many rounds as the task has polls to go bring the call to its end. -/
theorem Nearer.rounds (hl : Lifts lift lifted)
    (fresh : ∀ e ∈ T.entries, e.1 ∉ handlesFrom T.next (n + 1)) (b : Nat)
    (hr : Nearer T o n b r) : Over T (r.steps S errorType lift (AwaitStep.rounds b)) := by
  induction b generalizing r with
  | zero =>
    rcases hr with v | ⟨m, k, hk, -⟩
    · exact v
    · omega
  | succ b ih => exact ih (hr.round S errorType hl fresh)

end Stepping

/-! ### What awaiting comes to -/

theorem not_mem_rounds (b : Nat) : .drop ∉ AwaitStep.rounds b := by
  induction b with
  | zero => exact List.not_mem_nil
  | succ b ih => simpa [AwaitStep.rounds] using ih

/-- Only a call that is dropped is noted as such. -/
theorem TaskRun.dropped_steps (S : Schema) (errorType : WireType)
    (lift : Lowered → EStateM WireError NativeTask α) {ss : List AwaitStep} (hs : .drop ∉ ss)
    (r : TaskRun α) : (r.steps S errorType lift ss).dropped = r.dropped := by
  induction ss generalizing r with
  | nil => rfl
  | cons s ss ih =>
    have hss : .drop ∉ ss := fun h => hs (List.mem_cons_of_mem _ h)
    refine (ih hss (r.step S errorType lift s)).trans ?_
    cases s with
    | resume => rfl
    | wake => rfl
    | drop => exact absurd (List.mem_cons_self ..) hs

/-- **What a call that waits comes to**, from how its task ended: what a direct call would come to,
except that a panic without text has got one. -/
def awaited (S : Schema) (errorType : WireType) (lifted : Lowered → Except WireError α) :
    Except Fault Lowered → Except CallError α
  | .error (.panic none) => .error (.internal (.panic "native future panicked"))
  | o => report S errorType lifted o

theorem report_settled (S : Schema) (errorType : WireType)
    (lifted : Lowered → Except WireError α) (o : Except Fault Lowered) :
    report S errorType lifted (settled o) = awaited S errorType lifted o := by
  rcases o with ⟨b | m | ⟨_ | m⟩⟩ | v
  · rfl
  · rfl
  · have hm : messageError "native future panicked" = .panic "native future panicked" :=
      if_neg (by decide)
    exact congrArg (fun e => (Except.error (CallError.internal e) : Except CallError α)) hm
  · rfl
  · rfl

theorem awaited_eq_report (S : Schema) (errorType : WireType)
    (lifted : Lowered → Except WireError α) {o : Except Fault Lowered}
    (ho : o ≠ .error (.panic none)) :
    awaited S errorType lifted o = report S errorType lifted o := by
  unfold awaited
  split
  · exact absurd rfl ho
  · rfl

section Ends

variable {T : HandleTable Unit} {o : Except Fault Lowered} {n : Nat} {x : Except CallError α}
  {r : TaskRun α}

/-- Only a call that collected its result has come to something. -/
theorem Stage.eq_of_outcome (st : Stage T o n x r) {y : Except CallError α}
    (hy : r.outcome = some y) : Finished T n x r ∧ y = x := by
  have hnone : r.outcome ≠ none := by rw [hy]; nofun
  cases st with
  | toPoll m k p => exact absurd p.outcome hnone
  | parked m k p => exact absurd p.outcome hnone
  | announced a => exact absurd a.outcome hnone
  | finished f =>
    rw [f.outcome] at hy
    exact ⟨f, (Option.some.inj hy).symm⟩
  | dropped _ h _ => exact absurd h hnone

theorem Stage.over (st : Stage T o n x r) (hp : r.call.phase = .over) :
    Over T r ∧ (r.dropped = false → r.outcome ≠ none) := by
  cases st with
  | toPoll m k p =>
    have h := p.phase
    rw [hp] at h
    rcases h with h | h
    · cases h
    · cases h
  | parked m k p =>
    have h := p.phase
    rw [hp] at h
    cases h
  | announced a =>
    have h := a.phase
    rw [hp] at h
    cases h
  | finished f =>
    refine ⟨f.toOver, ?_⟩
    intro _
    rw [f.outcome]
    nofun
  | dropped v _ h =>
    refine ⟨v, ?_⟩
    intro hd
    rw [h] at hd
    cases hd

end Ends

/-- **Awaiting is independent of the schedule.**  Let a task be pending for `n` polls and then end
with `o`, and let wake-ups and polls of the executor come in any order, over any table of
continuations that does not hold the next handles already, which no sound one does
(`HandleTable.Sound.fresh`).  If the call comes to something, the native calls made were `n + 1`
polls, each of which polled the computation once and was answered once, and then `complete` and
`free`; and what it came to is what `o` stands for, which is what a direct call comes to unless `o`
is a panic without text.  Whenever the call is over, also if it was dropped, the table is as it was
at first.  And unless it is dropped the call does come to something, after enough wake-ups and
polls.

A message of more than `maxLength` bytes, 2 ^ 31 - 1, for which there is no buffer, is taken for an
empty one here as it is in a direct call (`messageError`). -/
theorem awaited_alike (S : Schema) (errorType : WireType)
    {lift : Lowered → EStateM WireError NativeTask α} {lifted : Lowered → Except WireError α}
    (lifts : Lifts lift lifted) {o : Except Fault Lowered} {n : Nat} {t : NativeTask}
    (due : Due o n t) (idle : t.future.scheduler = .idle) (quiet : t.events = [])
    {T : HandleTable Unit} (fresh : ∀ e ∈ T.entries, e.1 ∉ handlesFrom T.next (n + 1))
    (ss : List AwaitStep) :
    let r := (TaskRun.start t T).steps S errorType lift ss
    (∀ x, r.outcome = some x → r.call.phase = .over ∧
      r.call.calls = (handlesFrom T.next (n + 1)).map .poll ++ [.complete, .free] ∧
      r.call.native.events = wholeTrace T.next n ∧
      x = awaited S errorType lifted o ∧
      (∀ b e, o = .error (.domain b) → e.hasType S errorType = true → e.fits = true →
        e.keyed = true → b.check = .ok () → b.contents = e.encodeOuter → x = .error (.domain e)) ∧
      (o ≠ .error (.panic none) → ∀ direct : Lowered → EStateM WireError Heap α,
        (∀ l h, outcome (direct l) h = lifted l) → ∀ zero h,
          x = (invoke S nativeEntries.allocator (some errorType) direct
            (Native.run zero (ofExcept o)) h).1)) ∧
    (r.call.phase = .over → r.call.continuations.entries = T.entries) ∧
    (.drop ∉ ss → (r.steps S errorType lift (AwaitStep.rounds (n + 1))).outcome ≠ none) := by
  intro r
  have start : Stage T o n (report S errorType lifted (settled o)) (TaskRun.start t T) := by
    refine .toPoll 0 n ⟨⟨rfl, ?_, rfl, rfl⟩, Nat.zero_add n, .inl rfl, due, .inl idle, rfl, quiet⟩
    exact (UInt64.add_zero T.next).symm
  have stage := start.steps S errorType ss lifts fresh
  refine ⟨?_, fun hover => (stage.over hover).1.table, ?_⟩
  · intro x hx
    obtain ⟨f, rfl⟩ := stage.eq_of_outcome hx
    refine ⟨f.phase, f.calls, f.events, report_settled .., ?_, ?_⟩
    · rintro b e rfl typed bounded distinct sound holds
      exact congrArg Except.error (declaredError_eq S typed bounded distinct sound holds)
    · intro ho direct hdirect zero h
      rw [invoke_outcome S nativeEntries_accepts errorType hdirect, accepting_run, report_settled,
        awaited_eq_report S errorType lifted ho]
  · -- one round leads to a call that waits, and `n` more to the end
    intro hs
    have hover : Over T (r.steps S errorType lift (AwaitStep.rounds (n + 1))) :=
      (stage.nearer S errorType lifts fresh).rounds S errorType lifts fresh n
    have hdropped : (r.steps S errorType lift (AwaitStep.rounds (n + 1))).dropped = false := by
      rw [TaskRun.dropped_steps S errorType lift (not_mem_rounds _)]
      exact TaskRun.dropped_steps S errorType lift hs _
    have hstage := stage.steps S errorType (AwaitStep.rounds (n + 1)) lifts fresh
    exact (hstage.over hover.phase).2 hdropped

/-- A task that wakes itself twice during its first poll, then waits, and fails in the end, under
wake-ups that nobody waits for. -/
theorem awaited_alike_declared :
    let e := (Sample.SampleError.notFound "k").toValue
    let failure : Except Fault Lowered := .error (.domain (.ofBlock ⟨1, e.encodeOuter, 0⟩))
    let t : NativeTask := {
      category := .buffer
      future := .new [{ wakes := 2 }, { keeps := true }, { ends := .ofResult failure }] }
    let T : HandleTable Unit := { next := 5, entries := [(2, ())] }
    let r : TaskRun Value := (TaskRun.start t T).steps Sample.schema Sample.SampleError.type
      (Sample.schema.liftWhole NativeTask.allocator .text)
      ([.wake, .resume, .wake, .wake, .resume] ++ AwaitStep.rounds 3)
    r.outcome = some (.error (.domain e)) ∧
      r.call.calls = [.poll 5, .poll 6, .poll 7, .complete, .free] ∧
      r.call.continuations.entries = [(2, ())] := by
  intro e failure t T
  dsimp only
  have due : Due failure 2 t :=
    @Due.planned failure t [{ wakes := 2 }, { keeps := true }] [] { ends := .ofResult failure }
      rfl (by simp) rfl
  have sound : T.Sound := by
    intro p hp
    rw [List.mem_singleton.1 hp]
    decide
  have fresh : ∀ e ∈ T.entries, e.1 ∉ handlesFrom T.next 3 := sound.fresh (by decide)
  have lifts := liftWhole_lifts Sample.schema .text
  obtain ⟨-, -, hcomes⟩ := awaited_alike Sample.schema Sample.SampleError.type lifts due rfl rfl
    fresh [.wake, .resume, .wake, .wake, .resume]
  obtain ⟨hends, htable, -⟩ := awaited_alike Sample.schema Sample.SampleError.type lifts due rfl rfl
    fresh ([.wake, .resume, .wake, .wake, .resume] ++ AwaitStep.rounds 3)
  have hne := hcomes (by decide)
  rw [← TaskRun.steps_append] at hne
  obtain ⟨x, hx⟩ := Option.ne_none_iff_exists'.1 hne
  obtain ⟨hover, hcalls, -, -, hdeclared, -⟩ := hends x hx
  have hxe : x = .error (.domain e) := hdeclared _ e rfl (by decide) (by decide) (by decide)
    (by decide) (by decide)
  exact ⟨hx.trans (congrArg some hxe), hcalls.trans (by decide), htable hover⟩

end CallBoundary.Host