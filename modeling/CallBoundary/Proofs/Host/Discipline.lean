import CallBoundary.Proofs.Host.Planned
import CallBoundary.Sample.Types

/-!
# The discipline of a call

Once its executor has polled it, a call goes through one life, whatever the native side answers and
whenever: polls, each after the answer to the one before, and then `complete` and `free` or `cancel`
and `free`.  Every step of a run keeps this discipline (`Disciplined.step`), so that a whole run
does: `call_discipline`.
-/

namespace CallBoundary.Host

variable {plan : List PlannedAnswer} {start : Handle} {k : Nat} {hs : List Handle} {r : CallRun α}

/-! ### The other steps -/

/-- What happens to other continuations is no concern of the call, as long as its own stays. -/
theorem Disciplined.elsewhere (d : Disciplined plan start k hs r) {t : HandleTable Unit}
    {others : List Handle} (issued : t.Issued start (hs ++ others))
    (stays : ∀ h, r.call.phase = .waiting h → r.call.continuations.find? h = some () →
      t.find? h = some ()) :
    Disciplined plan start k hs { r with call := { r.call with continuations := t }, others } := by
  refine ⟨d.length, d.le, d.again, d.standing, issued, d.script, ?_⟩
  intro hne
  have hheld := d.held hne
  unfold Held at hheld ⊢
  cases hp : r.call.phase with
  | waiting h =>
    rw [hp] at hheld
    exact ⟨hheld.1, stays h hp hheld.2⟩
  | unstarted =>
    rw [hp] at hheld
    exact hheld
  | answered code =>
    rw [hp] at hheld
    exact hheld
  | _ => exact absurd hp hne

/-- A call that is over makes no more calls of the native side. -/
theorem Disciplined.late (d : Disciplined plan start k hs r) (hp : r.call.phase = .over)
    (native : ScriptedFuture) (a : Answer) :
    Disciplined plan start k hs { r with call := { r.call with native }.fire a } ∧
      ({ r.call with native }.fire a).phase = .over := by
  obtain ⟨wakes, hfire⟩ := AsyncCall.fire_eq { r.call with native } a
  have hover : ({ r.call with native }.fire a).phase = .over := by
    rw [hfire]
    exact AsyncCall.receive_over _ a hp
  refine ⟨⟨d.length, d.le, d.again, ?_, ?_, fun h => absurd hover h, fun h => absurd hover h⟩,
    hover⟩
  · -- an answer touches neither the calls made nor what came of them
    show Standing plan k _ ({ r.call with native }.fire a).phase
      ({ r.call with native }.fire a).calls r.outcome r.dropped
    rw [hover, hfire, AsyncCall.receive_calls, ← hp]
    exact d.standing
  · refine d.issued.of_next ?_
    rw [hfire]
    exact AsyncCall.receive_next _ a

theorem fireScripted_of_none {c : AsyncCall ScriptedFuture} (code : Int8)
    (hk : c.native.kept = none) : c.fireScripted .kept code = (false, c) := by
  simp only [AsyncCall.fireScripted, hk]

theorem fireScripted_of_some {c : AsyncCall ScriptedFuture} (code : Int8) {h : Handle}
    (hk : c.native.kept = some h) :
    c.fireScripted .kept code = (true, { c with native := c.native.giveKept }.fire ⟨h, code⟩) := by
  simp only [AsyncCall.fireScripted, hk, if_true]

/-- The answer that the call waits for arrives. -/
theorem Disciplined.awaited (d : Disciplined plan start k hs r) {h : Handle}
    (hp : r.call.phase = .waiting h) {a : PlannedAnswer} (ha : plan[k]? = some a) :
    let c' := (r.call.fireScripted .kept a.code).2
    c'.phase = .answered a.code ∧ Disciplined plan start k hs { r with call := c' } := by
  intro c'
  have hne : r.call.phase ≠ .over := by rw [hp]; nofun
  have hheld := d.held hne
  rw [Held, hp] at hheld
  obtain ⟨hkept, hparked⟩ := hheld
  obtain ⟨hcalls, hnone, hkeep, -⟩ := d.standing.live hne
  let given : AsyncCall ScriptedFuture := { r.call with native := r.call.native.giveKept }
  obtain ⟨wakes, hfire⟩ := given.fire_eq ⟨h, a.code⟩
  rw [given.receive_of_waiting ⟨h, a.code⟩ hparked hp] at hfire
  have hc' : c' = given.fire ⟨h, a.code⟩ := congrArg Prod.snd (fireScripted_of_some a.code hkept)
  rw [hc', hfire]
  refine ⟨rfl, d.length, d.le, d.again, ?_, d.issued.of_next rfl, fun _ => d.script hne,
    fun _ => rfl⟩
  show Standing plan k _ (.answered a.code) r.call.calls r.outcome r.dropped
  rw [hcalls, hnone, hkeep]
  exact .answered a ha

/-- After a late answer, awaited or not, the call does not wait any more. -/
theorem Disciplined.answer (d : Disciplined plan start k hs r) {a : PlannedAnswer}
    (ha : plan[k]? = some a) :
    let c' := (r.call.fireScripted .kept a.code).2
    (∀ h, c'.phase ≠ .waiting h) ∧ Disciplined plan start k hs { r with call := c' } := by
  intro c'
  by_cases hp : r.call.phase = .over
  · cases hk : r.call.native.kept with
    | none =>
      have hc' : c' = r.call := congrArg Prod.snd (fireScripted_of_none a.code hk)
      rw [hc', hp]
      exact ⟨nofun, d⟩
    | some h =>
      have hc' : c' = { r.call with native := r.call.native.giveKept }.fire ⟨h, a.code⟩ :=
        congrArg Prod.snd (fireScripted_of_some a.code hk)
      obtain ⟨d', hover⟩ := d.late hp r.call.native.giveKept ⟨h, a.code⟩
      rw [hc', hover]
      exact ⟨nofun, d'⟩
  · obtain ⟨-, -, -, ⟨h, hph⟩ | ⟨b, -, hph⟩⟩ := d.standing.live hp
    · obtain ⟨hans, d'⟩ := d.awaited hph ha
      have hans : c'.phase = .answered a.code := hans
      rw [hans]
      exact ⟨nofun, d'⟩
    · -- the native side has called the continuation already, and holds no other
      have hheld := d.held hp
      rw [Held, hph] at hheld
      have hc' : c' = r.call := congrArg Prod.snd (fireScripted_of_none a.code hheld)
      rw [hc', hph]
      exact ⟨nofun, d⟩

/-- A call that is dropped while it is suspended is cancelled. -/
theorem Disciplined.drop (d : Disciplined plan start k hs r) :
    let out := r.call.drop ScriptedFuture.entries
    out.2.phase = .over ∧
      Disciplined plan start k hs { r with call := out.2, dropped := r.dropped || out.1 } := by
  intro out
  by_cases hp : r.call.phase = .over
  · have hout : out = (false, r.call) := AsyncCall.drop_over hp
    rw [hout, Bool.or_false]
    exact ⟨hp, d⟩
  · obtain ⟨-, hnone, -, hph⟩ := d.standing.live hp
    have hout : out = (true, AsyncCall.abandon ScriptedFuture.entries r.call) := by
      rcases hph with ⟨h, hph⟩ | ⟨a, -, hph⟩
      · exact AsyncCall.drop_waiting hph
      · exact AsyncCall.drop_answered hph
    have hst : Standing plan k (hs.map .poll) .over (hs.map .poll ++ [.cancel, .free])
        r.outcome true := by
      rw [hnone]
      exact .dropped
    rw [hout, Bool.or_true]
    exact d.abandoned hp hst

/-! ### Whole runs -/

/-- What the last step has settled. -/
def Heeded (plan : List PlannedAnswer) (k : Nat) : HostStep → Phase → Prop
  | .resume, phase => ∀ code, phase ≠ .answered code
  | .answer, phase => ∀ h, phase = .waiting h → plan[k]? = none
  | .drop, phase => phase = .over
  | _, _ => True

theorem polls_map (hs : List Handle) : polls (hs.map .poll) = hs := by
  induction hs with
  | nil => rfl
  | cons h hs ih => exact congrArg (h :: ·) ih

/-- What ends a call is not a poll. -/
theorem Standing.polls_eq {calls : List FutureCall} {phase : Phase}
    {outcome : Option (Except CallError α)} {dropped : Bool}
    (hst : Standing plan k (hs.map .poll) phase calls outcome dropped) : polls calls = hs := by
  have hend : ∀ e : List FutureCall, polls e = [] → polls (hs.map .poll ++ e) = hs := by
    intro e he
    have h : polls (hs.map .poll ++ e) = polls (hs.map .poll) ++ polls e :=
      List.filterMap_append ..
    rw [h, he, polls_map, List.append_nil]
  cases hst with
  | waiting h _ => exact polls_map hs
  | answered a _ => exact polls_map hs
  | finished a x _ _ => exact hend _ rfl
  | refused a _ _ => exact hend _ rfl
  | dropped => exact hend _ rfl

section Running

variable (S : Schema) (A : Allocator ScriptedFuture) (errorType : WireType)
  (lift : Lowered → EStateM WireError ScriptedFuture α)

/-- Every step keeps the discipline. -/
theorem Disciplined.step (d : Disciplined plan start k hs r) (s : HostStep) :
    let r' := r.step S A errorType lift plan s
    ∃ k hs', Disciplined plan start k hs' r' ∧ Heeded plan k s r'.call.phase := by
  intro r'
  cases s with
  | resume =>
    obtain ⟨hheeded, k, hs', d'⟩ := d.resume S A errorType lift
    exact ⟨k, hs', d', hheeded⟩
  | drop =>
    obtain ⟨hover, d'⟩ := d.drop
    exact ⟨k, hs, d', hover⟩
  | parkElsewhere =>
    refine ⟨k, hs, d.elsewhere ?_ ?_, trivial⟩
    · refine (d.issued.insert ()).of_perm ?_
      rw [← List.append_assoc]
      exact List.perm_append_singleton _ _
    · intro h _ hfind
      by_cases hne : h = r.call.continuations.next
      · rw [hne]
        exact HandleTable.find?_insert_self ()
      · exact (HandleTable.find?_insert_of_ne () hne).trans hfind
  | answerElsewhere h =>
    by_cases hp : r.call.phase = .waiting h
    · have hr : r' = r := if_pos hp
      rw [hr]
      exact ⟨k, hs, d, trivial⟩
    · have hr : r' = _ := if_neg hp
      rw [hr]
      refine ⟨k, hs, d.elsewhere (d.issued.of_next rfl) ?_, trivial⟩
      intro h' hw hfind
      have hne : h' ≠ h := by
        intro he
        exact hp (he ▸ hw)
      exact (HandleTable.find?_erase_of_ne hne).trans hfind
  | answer =>
    have hk : (polls r.call.calls).length - 1 = k := by
      rw [d.standing.polls_eq, d.length, Nat.add_sub_cancel]
    cases hplan : plan[k]? with
    | none =>
      have hr : r' = r := by
        show r.step S A errorType lift plan .answer = r
        simp only [CallRun.step, hk, hplan]
      rw [hr]
      exact ⟨k, hs, d, fun _ _ => hplan⟩
    | some a =>
      have hr : r' = { r with call := (r.call.fireScripted .kept a.code).2 } := by
        show r.step S A errorType lift plan .answer = _
        simp only [CallRun.step, hk, hplan]
      obtain ⟨hheeded, d'⟩ := d.answer hplan
      rw [hr]
      exact ⟨k, hs, d', fun h hw => absurd hw (hheeded h)⟩

/-- **Every run keeps the discipline**, and what its last step has settled stays settled. -/
theorem Disciplined.steps (ss : List HostStep) {s : HostStep} (d : Disciplined plan start k hs r)
    (hh : Heeded plan k s r.call.phase) :
    let r' := r.steps S A errorType lift plan ss
    ∃ k hs', Disciplined plan start k hs' r' ∧
      Heeded plan k ((s :: ss).getLast (List.cons_ne_nil _ _)) r'.call.phase := by
  induction ss generalizing k hs r s with
  | nil => exact ⟨k, hs, d, hh⟩
  | cons s' ss ih =>
    obtain ⟨k', hs', d', hh'⟩ := d.step S A errorType lift s'
    rw [List.getLast_cons_cons]
    exact ih d' hh'

/-- **The discipline of a call.**  Whatever the plan of the native side is, and in whichever order
things happen after the executor has polled the call for the first time: the native calls are
`k + 1` polls, each of which but the last was answered with a request for another; and then, if the
last was answered with the news that the result is there and the call resumed, `complete` and
`free`, whatever comes of the result; if the answer made no sense, `cancel` and `free`, and this
answer is the error; if the call was dropped before it was resumed, `cancel` and `free`.  Until then
there is nothing after the polls, and the call waits exactly as long as the native side holds the
continuation of its last poll.  Until the counter of handles goes round, no poll carries a handle
that was issued before. -/
theorem call_discipline (plan : List PlannedAnswer) (heap : Heap) (onCancel : Option Int8)
    (result : Lowered × Status) (t : HandleTable Unit) (ss : List HostStep) :
    let r := (CallRun.start (.ofPlan plan heap onCancel result) t).steps S A errorType lift plan
      (.resume :: ss)
    let hs := polls r.call.calls
    ∃ k, hs.length = k + 1 ∧ k ≤ plan.length ∧
      (∀ a ∈ plan.take k, a.code = PollCode.maybeReady.toInt8) ∧
      Standing plan k (hs.map .poll) r.call.phase r.call.calls r.outcome r.dropped ∧
      (r.call.phase ≠ .over → Held r.call) ∧
      Heeded plan k ((HostStep.resume :: ss).getLast (List.cons_ne_nil _ _)) r.call.phase ∧
      (t.next.toNat + (hs.length + r.others.length) ≤ 2 ^ 64 →
        (hs ++ r.others).Nodup ∧ ∀ h ∈ hs, t.next ≤ h) := by
  intro r hs
  let native := ScriptedFuture.ofPlan plan heap onCancel result
  have hask : Asking plan t.next [] (CallRun.start native t : CallRun α) := by
    refine ⟨⟨rfl, rfl, .nil t⟩, rfl, Nat.zero_le _, ?_, rfl, rfl, .inl rfl⟩
    intro a ha
    simp at ha
  have hfuel : ScriptedFuture.entries.patience native = plan.length := List.length_map ..
  obtain ⟨hheeded, k₁, hs₁, d₁⟩ := advance_disciplined S A errorType lift
    (ScriptedFuture.entries.patience native + 2) hask (Nat.le_of_eq (by rw [hfuel]; rfl))
  obtain ⟨k, hs', d, hlast⟩ := d₁.steps S A errorType lift ss (s := .resume) hheeded
  have hpolls : hs = hs' := d.standing.polls_eq
  rw [hpolls]
  refine ⟨k, d.length, d.le, d.again, d.standing, d.held, hlast, ?_⟩
  intro hn
  rw [← List.length_append] at hn
  refine ⟨d.issued.nodup hn, ?_⟩
  intro h hh
  exact d.issued.le hn (List.mem_append_left _ hh)

end Running

/-- A call that is asked to poll again late and at once, gets an answer that makes no sense, and is
dropped too late, while others are given handles too. -/
theorem call_discipline_unknown :
    let plan : List PlannedAnswer := [⟨false, 1⟩, ⟨true, 1⟩, ⟨false, 9⟩]
    let ss : List HostStep :=
      [.parkElsewhere, .answer, .resume, .answer, .answerElsewhere 2, .resume, .drop]
    let t : HandleTable Unit := {}
    let r : CallRun Value := (CallRun.start (.ofPlan plan {} none (.void, {})) t).steps
      Sample.schema ScriptedFuture.allocator .text (fun _ => pure .unit) plan (.resume :: ss)
    (polls r.call.calls = [1, 3, 4] ∧ r.others = [2] ∧
      t.next.toNat + ((polls r.call.calls).length + r.others.length) ≤ 2 ^ 64) ∧
    (polls r.call.calls ++ r.others).Nodup ∧ r.call.phase = .over := by
  intro plan ss t
  dsimp only
  obtain ⟨k, -, -, -, -, -, hover, hnew⟩ := call_discipline Sample.schema ScriptedFuture.allocator
    .text (fun _ => pure Value.unit) plan {} none (.void, {}) t ss
  refine ⟨⟨by decide +kernel, by decide +kernel, by decide +kernel⟩, (hnew ?_).1, hover⟩
  decide +kernel

end CallBoundary.Host
