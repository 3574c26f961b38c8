import CallBoundary.Host.Await
import CallBoundary.Proofs.Host.Report
import CallBoundary.Proofs.Native.Steps

/-!
# The polls of a native task

A task is `Due` after so many polls with an outcome when the polls until then find it pending and
the next one ends it so.  While nobody waits for it and nobody has cancelled it, each poll polls the
computation once: it brings the task one poll nearer to its end (`poll_due`), or it ends it
(`poll_due_zero`).  Wake-ups in between, and those during a poll, only decide whether the poll is
answered at once.
-/

namespace CallBoundary

open Native

/-- A result as it is kept until the host asks for it: a panic has become an internal fault. -/
def Native.settled : Except Fault α → Except Fault α
  | .error (.panic text) => .error (.internal (text.getD "native future panicked"))
  | r => r

theorem Native.Progress.result?_ofResult (r : Except Fault α) :
    (Progress.ofResult r).result? = some (settled r) := by
  rcases r with ⟨b | m | text⟩ | a
  · rfl
  · rfl
  · rfl
  · rfl

namespace Host.NativeTask

variable {o : Except Fault Lowered} {n : Nat} {t : NativeTask}

/-- **The next polls of a task**: so many find it pending, and the one after them ends it with this
outcome, which is known beforehand or worked out then. -/
inductive Due (o : Except Fault Lowered) : Nat → NativeTask → Prop
  | planned {t : NativeTask} {ps rest : List (InnerPoll Lowered)} {last : InnerPoll Lowered} :
      t.future.state = .running (ps ++ last :: rest) → (∀ p ∈ ps, p.ends = .pending) →
      last.ends = .ofResult o → Due o ps.length t
  | worked {t : NativeTask} {ps : List (InnerPoll Lowered)} {work : Body Lowered} :
      t.future.state = .running ps → (∀ p ∈ ps, p.ends = .pending) → t.work = some work →
      (attempt work t.heap).1 = o → Due o ps.length t

/-- The task is told that it can be polled so often. -/
theorem Due.le_patience (hd : Due o n t) : n ≤ t.patience := by
  cases hd with
  | planned hs _ _ =>
    simp only [patience, hs, List.length_append, List.length_cons]
    omega
  | worked hs _ _ _ =>
    simp only [patience, hs]
    omega

/-- What a task is due for does not depend on who waits for it. -/
theorem Due.congr (hd : Due o n t) {t' : NativeTask} (hs : t'.future.state = t.future.state)
    (hw : t'.work = t.work) (hh : t'.heap = t.heap) : Due o n t' := by
  cases hd with
  | planned hrun hpend hlast => exact .planned (hs.trans hrun) hpend hlast
  | worked hrun hpend hwork hend =>
    refine .worked (hs.trans hrun) hpend (hw.trans hwork) ?_
    rw [hh, hend]

/-! ### Polling -/

/-- The task after some events of its future. -/
def after (t : NativeTask) (r : List Event × Future Lowered) : NativeTask :=
  { t with future := r.2, events := t.events ++ r.1 }

theorem poll_eq (h : Handle) : entries.poll h t =
    (answersOf (t.conclude.future.poll h).1, t.conclude.after (t.conclude.future.poll h)) := rfl

theorem conclude_of_cons {p : InnerPoll Lowered} {ps : List (InnerPoll Lowered)}
    (hs : t.future.state = .running (p :: ps)) : t.conclude = t := by
  unfold conclude
  rw [hs]

theorem Due.succ (hd : Due o (n + 1) t) : ∃ p ps, t.future.state = .running (p :: ps) ∧
    p.ends = .pending ∧ ∀ t' : NativeTask, t'.future.state = .running ps → t'.work = t.work →
      t'.heap = t.heap → Due o n t' := by
  generalize hm : n + 1 = m at hd
  cases hd with
  | @planned _ ps rest last hs hpend hlast =>
    cases ps with
    | nil => cases hm
    | cons p ps =>
      cases hm
      refine ⟨p, ps ++ last :: rest, hs, hpend p (List.mem_cons_self ..), ?_⟩
      intro t' hs' _ _
      exact .planned hs' (fun q hq => hpend q (List.mem_cons_of_mem _ hq)) hlast
  | @worked _ ps work hs hpend hwork hend =>
    cases ps with
    | nil => cases hm
    | cons p ps =>
      cases hm
      refine ⟨p, ps, hs, hpend p (List.mem_cons_self ..), ?_⟩
      intro t' hs' hw hh
      exact .worked hs' (fun q hq => hpend q (List.mem_cons_of_mem _ hq)) (hw.trans hwork)
        (by rw [hh, hend])

/-- What a task is to end with is there at its last poll. -/
theorem Due.conclude (hd : Due o 0 t) (hc : t.future.scheduler ≠ .cancelled) :
    ∃ p ps, t.conclude.future.state = .running (p :: ps) ∧ p.ends = .ofResult o ∧
      t.conclude.future.scheduler = t.future.scheduler ∧ t.conclude.events = t.events := by
  generalize hm : 0 = m at hd
  cases hd with
  | @planned _ ps rest last hs hpend hlast =>
    cases ps with
    | cons p ps => cases hm
    | nil =>
      rw [conclude_of_cons hs]
      exact ⟨last, rest, hs, hlast, rfl, rfl⟩
  | @worked _ ps work hs hpend hwork hend =>
    cases ps with
    | cons p ps => cases hm
    | nil =>
      unfold NativeTask.conclude
      simp only [hs, hwork, if_neg hc]
      exact ⟨_, _, rfl, congrArg Progress.ofResult hend, rfl, rfl⟩

/-- **A poll before the last** finds the computation pending.  It is answered at once, with a
request for another, if a wake-up came meanwhile or before; otherwise its continuation waits. -/
theorem poll_due (h : Handle) (hd : Due o (n + 1) t) (hs : t.future.scheduler.Free) :
    let r := entries.poll h t
    Due o n r.2 ∧
      ((r.1 = [] ∧ r.2.future.scheduler = .waiting h ∧ r.2.events = t.events ++ [.polled]) ∨
        (r.1 = [⟨h, PollCode.maybeReady.toInt8⟩] ∧ r.2.future.scheduler.Free ∧
          r.2.events = t.events ++ [.polled, .fired ⟨h, .maybeReady⟩])) := by
  intro r
  obtain ⟨p, ps, hrun, hpend, hdue⟩ := hd.succ
  obtain ⟨hevents, hfree⟩ := hs.wakes p.wakes
  have hr : r = (answersOf (t.future.poll h).1, t.after (t.future.poll h)) := by
    show entries.poll h t = _
    rw [poll_eq, conclude_of_cons hrun]
  have hinner := Future.pollInner_pending (f := t.future) hrun
    (show p.ends.result? = none by rw [hpend]; rfl)
  have hpoll := Future.poll_of_pending h hs.ne_cancelled hinner
  simp only [List.headD_cons, hevents, List.tail_cons] at hpoll
  rw [hr, hpoll]
  refine ⟨hdue _ rfl rfl rfl, ?_⟩
  rcases hfree with hidle | hwoken
  · -- no wake-up came since the last answer
    left
    rw [hidle]
    exact ⟨rfl, rfl, rfl⟩
  · -- one came before the poll or during it
    right
    rw [hwoken]
    exact ⟨rfl, .inl rfl, rfl⟩

/-- **The last poll** ends the computation, which is dropped then, and is answered at once. -/
theorem poll_due_zero (h : Handle) (hd : Due o 0 t) (hs : t.future.scheduler.Free) :
    let r := entries.poll h t
    r.1 = [⟨h, PollCode.ready.toInt8⟩] ∧ r.2.future.state = .complete (settled o) ∧
      r.2.future.scheduler.Free ∧
      r.2.events = t.events ++ [.polled, .dropped, .fired ⟨h, .ready⟩] := by
  intro r
  obtain ⟨p, ps, hrun, hend, hsched, hsame⟩ := hd.conclude hs.ne_cancelled
  rw [← hsched] at hs
  obtain ⟨hevents, hfree⟩ := hs.wakes p.wakes
  have hr : r =
      (answersOf (t.conclude.future.poll h).1, t.conclude.after (t.conclude.future.poll h)) := rfl
  have hinner := Future.pollInner_ends (f := t.conclude.future) hrun (r := settled o)
    (show p.ends.result? = _ by rw [hend]; exact Progress.result?_ofResult o)
  have hpoll := Future.poll_of_ready h hs.ne_cancelled hinner
  simp only [List.headD_cons, hevents, List.nil_append] at hpoll
  rw [hr, hpoll]
  refine ⟨rfl, rfl, hfree, ?_⟩
  rw [← hsame]
  rfl

/-! ### The other steps -/

/-- The answers of continuations that are called. -/
theorem answersOf_ofFiring (f : Option Firing) :
    answersOf (Event.ofFiring f) = f.toList.map fun f => ⟨f.data, f.code.toInt8⟩ := by
  cases f with
  | none => rfl
  | some f => rfl

/-- What a task is cancelled with: the answer to whoever waits. -/
theorem cancel_eq (t : NativeTask) :
    let r := entries.cancel t
    r.1 = t.future.scheduler.cancel.1.toList.map (fun f => ⟨f.data, f.code.toInt8⟩) ∧
      r.2.future.scheduler = .cancelled := by
  intro r
  refine ⟨?_, ?_⟩
  · have hrel : ∀ h : Heap, answersOf (Future.release t.future.state h).1 = [] := by
      intro h
      rcases t.future.state with ps | ⟨⟨b | m | text⟩ | a⟩ | _
      · rfl
      · rfl
      · rfl
      · rfl
      · rfl
      · rfl
    show answersOf (Event.ofFiring t.future.scheduler.cancel.1 ++
      (Future.release t.future.state t.heap).1) = _
    rw [← answersOf_ofFiring]
    unfold answersOf
    rw [List.filterMap_append]
    exact (congrArg (_ ++ ·) (hrel t.heap)).trans (List.append_nil _)
  · show t.future.scheduler.cancel.2 = _
    cases t.future.scheduler with
    | idle => rfl
    | woken => rfl
    | waiting h => rfl
    | cancelled => rfl

/-- The result is handed over as the report of a body that ended so. -/
theorem complete_eq {r : Except Fault Lowered} (hs : t.future.state = .complete r) :
    entries.complete {} t = ((Native.run t.category.zero (ofExcept r) {} t.heap).1,
      { t with
        heap := (Native.run t.category.zero (ofExcept r) {} t.heap).2
        future := { t.future with state := .consumed } }) := by
  simp only [entries, Future.complete, hs]
  rfl

/-- Nothing is left to give back once the result was handed over. -/
theorem free_consumed (hs : t.future.state = .consumed) : entries.free t = ((), t) := by
  have hrel : Future.release t.future.state t.heap = ([], t.heap) := by rw [hs]; rfl
  have hfree : entries.free t = ((), { t with
      heap := (Future.release t.future.state t.heap).2
      future := { t.future with state := .consumed }
      events := t.events ++ (Future.release t.future.state t.heap).1 }) := rfl
  rw [hfree, hrel, List.append_nil, ← hs]

/-- What the host does with the heap leaves the future alone. -/
theorem allocator_keeps (b : Buffer) :
    Keeps (fun t : NativeTask => (t.future, t.events)) (attempt (allocator.free b)) := by
  refine keeps_onPart ?_ _
  intro t heap
  rfl

theorem allocator_accepts : allocator.Accepts := nativeEntries_accepts.onPart _ _

end Host.NativeTask

namespace Host

open NativeTask

/-! ### Waking and dropping a call -/

namespace AsyncCall

variable {c : AsyncCall NativeTask}

/-- A wake-up that nobody waits for is remembered at most. -/
theorem wake_of_quiet (hq : ∀ h, c.native.future.scheduler ≠ .waiting h) :
    c.wake = { c with
      native := c.native.after
        ([], { c.native.future with scheduler := c.native.future.scheduler.wake.2 }) } := by
  have hw : c.native.future.wake =
      ([], { c.native.future with scheduler := c.native.future.scheduler.wake.2 }) := by
    unfold Future.wake
    cases hs : c.native.future.scheduler with
    | idle => rfl
    | woken => rfl
    | waiting h => exact absurd hs (hq h)
    | cancelled => rfl
  show (answersOf c.native.future.wake.1).foldl fire
    { c with native := c.native.after c.native.future.wake } = _
  rw [hw]
  rfl

/-- A wake-up that somebody waits for is passed on. -/
theorem wake_of_waiting {h : Handle} (hs : c.native.future.scheduler = .waiting h) :
    c.wake = { c with
      native := c.native.after ([.fired ⟨h, .maybeReady⟩],
        { c.native.future with scheduler := .idle }) }.fire ⟨h, PollCode.maybeReady.toInt8⟩ := by
  have hw : c.native.future.wake =
      ([.fired ⟨h, .maybeReady⟩], { c.native.future with scheduler := .idle }) := by
    unfold Future.wake
    rw [hs]
    rfl
  show (answersOf c.native.future.wake.1).foldl fire
    { c with native := c.native.after c.native.future.wake } = _
  rw [hw]
  rfl

/-- A call that is given up leaves a cancelled task. -/
theorem abandon_scheduler (c : AsyncCall NativeTask) :
    (abandon entries c).native.future.scheduler = .cancelled := by
  have hn := foldl_receive (P := fun c' => c'.native = (cancelling entries c).native)
    (fun c' a h => (receive_native c' a).trans h) (entries.cancel c.native).1
    (c := cancelling entries c) rfl
  have hf : ∀ t : NativeTask, (entries.free t).2.future.scheduler = t.future.scheduler :=
    fun _ => rfl
  rw [abandon_eq]
  refine (hf _).trans ?_
  rw [hn]
  exact (cancel_eq c.native).2

theorem abandon_ne_waiting (c : AsyncCall NativeTask) (h : Handle) :
    (abandon entries c).native.future.scheduler ≠ .waiting h := by
  rw [abandon_scheduler]
  nofun

/-- If nobody waits for the task, nobody is told. -/
theorem abandon_table_of_free (hs : c.native.future.scheduler.Free) :
    (abandon entries c).continuations = c.continuations := by
  rw [abandon_eq]
  show (List.foldl receive (cancelling entries c) (entries.cancel c.native).1).continuations = _
  rw [(cancel_eq c.native).1]
  rcases hs with hs | hs
  · rw [hs]
    rfl
  · rw [hs]
    rfl

/-- Whoever waits for the task is told. -/
theorem abandon_table_of_waiting {h : Handle} (hs : c.native.future.scheduler = .waiting h)
    (hf : c.continuations.find? h = some ()) :
    (abandon entries c).continuations = c.continuations.erase h := by
  rw [abandon_eq]
  show (List.foldl receive (cancelling entries c) (entries.cancel c.native).1).continuations = _
  rw [(cancel_eq c.native).1, hs]
  exact congrArg AsyncCall.continuations
    ((cancelling entries c).receive_of_some ⟨h, PollCode.ready.toInt8⟩ hf)

end AsyncCall

end Host

end CallBoundary
