import CallBoundary.Proofs.Host.CallSteps

/-!
# A native side that answers by plan

A plan says what the native side answers to the polls of a call; a run says when the late answers
arrive, when the executor polls, when the call is dropped, and what other calls do with the table of
continuations meanwhile.

A call is seen between two steps as `Disciplined`.  The loop in which the executor polls it keeps it
so, and leaves no answer standing: `Disciplined.resume`.
-/

namespace CallBoundary.Host

/-! ### Runs -/

/-- What a native side answers to a poll: during the poll or later, and with which code. -/
structure PlannedAnswer where
  atOnce : Bool
  code : Int8
deriving DecidableEq, Repr

namespace PlannedAnswer

/-- What the answer looks like in a script.  The code of a late one comes with the answer. -/
def scripted (a : PlannedAnswer) : Option (List Int8) := if a.atOnce then some [a.code] else none

end PlannedAnswer

/-- A future that answers its polls as planned, and the polls after those never. -/
def ScriptedFuture.ofPlan (plan : List PlannedAnswer) (heap : Heap) (onCancel : Option Int8)
    (result : Lowered × Status) : ScriptedFuture :=
  { heap, onCancel, result, script := plan.map PlannedAnswer.scripted }

/-- The continuations that went with some calls. -/
def polls (calls : List FutureCall) : List Handle :=
  calls.filterMap fun
    | .poll h => some h
    | _ => none

/-- What can happen to a call. -/
inductive HostStep where
  /-- The executor polls it. -/
  | resume
  /-- The late answer to its last poll arrives. -/
  | answer
  | drop
  /-- Another call parks a continuation. -/
  | parkElsewhere
  /-- A continuation is called that this call does not wait for. -/
  | answerElsewhere (h : Handle)
deriving DecidableEq, Repr

/-- A call with what came of it. -/
structure CallRun (α : Type) where
  call : AsyncCall ScriptedFuture
  outcome : Option (Except CallError α) := none
  /-- Whether it was dropped while it was suspended. -/
  dropped : Bool := false
  /-- The handles that other calls were given. -/
  others : List Handle := []

namespace CallRun

/-- A call that nobody has polled, over any table of continuations. -/
def start (native : ScriptedFuture) (continuations : HandleTable Unit) : CallRun α :=
  { call := { native, continuations } }

/-- What a poll of the executor gave is noted. -/
def took (r : CallRun α) (out : PollOutcome α × AsyncCall ScriptedFuture) : CallRun α :=
  { r with
    call := out.2
    outcome := match out.1 with
      | .ready x => some x
      | _ => r.outcome }

variable (S : Schema) (A : Allocator ScriptedFuture) (errorType : WireType)
  (lift : Lowered → EStateM WireError ScriptedFuture α) (plan : List PlannedAnswer)

/-- One step. -/
def step (r : CallRun α) : HostStep → CallRun α
  | .resume => r.took (r.call.poll ScriptedFuture.entries S A errorType lift)
  | .answer =>
    match plan[(polls r.call.calls).length - 1]? with
    | some a => { r with call := (r.call.fireScripted .kept a.code).2 }
    | none => r
  | .drop =>
    let (suspended, call) := r.call.drop ScriptedFuture.entries
    { r with call, dropped := r.dropped || suspended }
  | .parkElsewhere =>
    let (h, continuations) := r.call.continuations.insert ()
    { r with call := { r.call with continuations }, others := r.others ++ [h] }
  | .answerElsewhere h =>
    if r.call.phase = .waiting h then r
    else { r with call := { r.call with continuations := (r.call.continuations.remove h).2 } }

/-- Some steps, one after the other. -/
def steps (r : CallRun α) (ss : List HostStep) : CallRun α :=
  ss.foldl (step S A errorType lift plan) r

end CallRun

/-! ### The invariant -/

/-- **What may be seen of a call** that was answered `k` times with a request for another poll, and
has made these polls: its phase, its calls of the native side, its outcome, and whether it was
dropped. -/
inductive Standing (plan : List PlannedAnswer) (k : Nat) (polled : List FutureCall) :
    Phase → List FutureCall → Option (Except CallError α) → Bool → Prop
  /-- The last poll was not answered yet, and was not to be at once. -/
  | waiting (h : Handle) : (∀ a, plan[k]? = some a → a.atOnce = false) →
      Standing plan k polled (.waiting h) polled none false
  /-- The last poll was answered as planned, and the call not resumed since. -/
  | answered (a : PlannedAnswer) : plan[k]? = some a →
      Standing plan k polled (.answered a.code) polled none false
  /-- The answer was that the result is there, and it was collected. -/
  | finished (a : PlannedAnswer) (x : Except CallError α) : plan[k]? = some a →
      a.code = PollCode.ready.toInt8 →
      Standing plan k polled .over (polled ++ [.complete, .free]) (some x) false
  /-- The answer made no sense. -/
  | refused (a : PlannedAnswer) : plan[k]? = some a → PollCode.ofInt8? a.code = none →
      Standing plan k polled .over (polled ++ [.cancel, .free])
        (some (.error (.internal (.unknownPoll a.code)))) false
  | dropped : Standing plan k polled .over (polled ++ [.cancel, .free]) none true

/-- These are the polls that a call has made to a native side with a plan. -/
structure Polled (plan : List PlannedAnswer) (start : Handle) (others hs : List Handle)
    (c : AsyncCall ScriptedFuture) : Prop where
  calls : c.calls = hs.map .poll
  script : c.native.script = (plan.drop hs.length).map PlannedAnswer.scripted
  issued : c.continuations.Issued start (hs ++ others)

/-- Where the continuation of the last poll is: with the native side, if it is not answered yet. -/
def Held (c : AsyncCall ScriptedFuture) : Prop :=
  match c.phase with
  | .waiting h => c.native.kept = some h ∧ c.continuations.find? h = some ()
  | _ => c.native.kept = none

/-- **The invariant of a run**: the polls of the call are these, all but the last were answered with
a request for another, and the call stands as it may. -/
structure Disciplined (plan : List PlannedAnswer) (start : Handle) (k : Nat) (hs : List Handle)
    (r : CallRun α) : Prop where
  length : hs.length = k + 1
  le : k ≤ plan.length
  again : ∀ a ∈ plan.take k, a.code = PollCode.maybeReady.toInt8
  standing : Standing plan k (hs.map .poll) r.call.phase r.call.calls r.outcome r.dropped
  issued : r.call.continuations.Issued start (hs ++ r.others)
  script : r.call.phase ≠ .over →
    r.call.native.script = (plan.drop hs.length).map PlannedAnswer.scripted
  held : r.call.phase ≠ .over → Held r.call

/-! ### One native poll -/

section Polling

variable {plan : List PlannedAnswer} {start : Handle} {others hs : List Handle}
  {c : AsyncCall ScriptedFuture}

/-- A scripted future keeps the continuation, or it calls it as planned. -/
theorem poll_scripted {s : ScriptedFuture} {m : Nat} (h : Handle)
    (hs : s.script = (plan.drop m).map PlannedAnswer.scripted) :
    ∃ s', s'.script = (plan.drop (m + 1)).map PlannedAnswer.scripted ∧
      ((ScriptedFuture.entries.poll h s = ([], s') ∧ s'.kept = some h ∧
          ∀ a, plan[m]? = some a → a.atOnce = false) ∨
        ∃ a, plan[m]? = some a ∧ ScriptedFuture.entries.poll h s = ([⟨h, a.code⟩], s') ∧
          s'.kept = s.kept) := by
  cases hp : plan[m]? with
  | none =>
    -- nothing is planned for this poll or any after it
    have hm : plan.length ≤ m := List.getElem?_eq_none_iff.1 hp
    rw [List.drop_eq_nil_of_le hm] at hs
    refine ⟨{ s with kept := some h, last := some h }, ?_, .inl ⟨?_, rfl, nofun⟩⟩
    · rw [List.drop_eq_nil_of_le (by omega)]
      exact hs
    · simp only [ScriptedFuture.entries, hs, List.map_nil]
  | some a =>
    obtain ⟨hm, ha⟩ := List.getElem?_eq_some_iff.1 hp
    rw [List.drop_eq_getElem_cons hm, ha, List.map_cons] at hs
    cases hat : a.atOnce with
    | false =>
      refine ⟨{ s with
        script := (plan.drop (m + 1)).map PlannedAnswer.scripted, kept := some h, last := some h },
        rfl, .inl ⟨?_, rfl, ?_⟩⟩
      · simp [ScriptedFuture.entries, hs, PlannedAnswer.scripted, hat]
      · intro a' ha'
        cases ha'
        exact hat
    | true =>
      refine ⟨{ s with
        script := (plan.drop (m + 1)).map PlannedAnswer.scripted, last := some h },
        rfl, .inr ⟨a, rfl, ?_, rfl⟩⟩
      simp [ScriptedFuture.entries, hs, PlannedAnswer.scripted, hat]

/-- After a poll the call waits for its answer, or it was answered at once as planned. -/
theorem issue_polled (hp : Polled plan start others hs c) (hk : c.native.kept = none) :
    let c' := AsyncCall.issue ScriptedFuture.entries c
    Polled plan start others (hs ++ [c.continuations.next]) c' ∧ Held c' ∧
      ((c'.phase = .waiting c.continuations.next ∧
          ∀ a, plan[hs.length]? = some a → a.atOnce = false) ∨
        ∃ a, plan[hs.length]? = some a ∧ c'.phase = .answered a.code) := by
  have hissued : (c.continuations.insert ()).2.Issued start
      ((hs ++ [c.continuations.next]) ++ others) := by
    refine (hp.issued.insert ()).of_perm ?_
    rw [List.append_assoc]
    exact List.perm_middle
  have hcalls : c.calls ++ [.poll c.continuations.next] =
      (hs ++ [c.continuations.next]).map .poll := by
    rw [hp.calls, List.map_append]
    rfl
  obtain ⟨s', hscript, ⟨hpoll, hkept, hlater⟩ | ⟨a, ha, hpoll, hkept⟩⟩ :=
    poll_scripted c.continuations.next hp.script
  · rw [AsyncCall.issue_unanswered c _ hpoll]
    refine ⟨⟨hcalls, ?_, hissued⟩, ⟨hkept, HandleTable.find?_insert_self ()⟩, .inl ⟨rfl, hlater⟩⟩
    rw [List.length_append]
    exact hscript
  · rw [AsyncCall.issue_answered c _ hpoll]
    refine ⟨⟨hcalls, ?_, hissued.of_next rfl⟩, hkept.trans hk, .inr ⟨a, ha, rfl⟩⟩
    rw [List.length_append]
    exact hscript

end Polling

/-! ### The loop -/

variable {plan : List PlannedAnswer} {start : Handle} {k : Nat} {hs : List Handle} {r : CallRun α}

/-- A call that is not over waits for its last poll, or that was answered. -/
theorem Standing.live {polled calls : List FutureCall} {phase : Phase}
    {outcome : Option (Except CallError α)} {dropped : Bool}
    (hs : Standing plan k polled phase calls outcome dropped) (hp : phase ≠ .over) :
    calls = polled ∧ outcome = none ∧ dropped = false ∧
      ((∃ h, phase = .waiting h) ∨ ∃ a, plan[k]? = some a ∧ phase = .answered a.code) := by
  cases hs with
  | waiting h _ => exact ⟨rfl, rfl, rfl, .inl ⟨h, rfl⟩⟩
  | answered a ha => exact ⟨rfl, rfl, rfl, .inr ⟨a, ha, rfl⟩⟩
  | finished => exact absurd rfl hp
  | refused => exact absurd rfl hp
  | dropped => exact absurd rfl hp

/-- What a call was answered is what was planned. -/
theorem Standing.of_answered {polled calls : List FutureCall} {code : Int8}
    {outcome : Option (Except CallError α)} {dropped : Bool}
    (hs : Standing plan k polled (.answered code) calls outcome dropped) :
    calls = polled ∧ outcome = none ∧ dropped = false ∧ ∃ a, plan[k]? = some a ∧ a.code = code := by
  cases hs with
  | answered a ha => exact ⟨rfl, rfl, rfl, a, ha, rfl⟩

/-- The call is about to poll the native side, for the first time or once more. -/
structure Asking (plan : List PlannedAnswer) (start : Handle) (hs : List Handle) (r : CallRun α) :
    Prop where
  polled : Polled plan start r.others hs r.call
  kept : r.call.native.kept = none
  le : hs.length ≤ plan.length
  again : ∀ a ∈ plan.take hs.length, a.code = PollCode.maybeReady.toInt8
  outcome : r.outcome = none
  dropped : r.dropped = false
  phase : r.call.phase = .unstarted ∨ r.call.phase = .answered PollCode.maybeReady.toInt8

theorem issue_disciplined (ha : Asking plan start hs r) :
    let c' := AsyncCall.issue ScriptedFuture.entries r.call
    c'.phase ≠ .over ∧
      Disciplined plan start hs.length (hs ++ [r.call.continuations.next])
        { r with call := c' } := by
  intro c'
  obtain ⟨hp, hheld, hlast⟩ := issue_polled ha.polled ha.kept
  have hne : c'.phase ≠ .over := by
    rcases hlast with ⟨h, -⟩ | ⟨a, -, h⟩
    · rw [h]; nofun
    · rw [h]; nofun
  refine ⟨hne, by simp, ha.le, ha.again, ?_, hp.issued, fun _ => hp.script, fun _ => hheld⟩
  show Standing plan hs.length _ c'.phase c'.calls r.outcome r.dropped
  rw [hp.calls, ha.outcome, ha.dropped]
  rcases hlast with ⟨h, hlater⟩ | ⟨a, haa, h⟩
  · rw [h]
    exact .waiting _ hlater
  · rw [h]
    exact .answered a haa

/-- A call whose last answer was to poll again is about to. -/
theorem Disciplined.asking (d : Disciplined plan start k hs r) {code : Int8}
    (hp : r.call.phase = .answered code) (hc : PollCode.ofInt8? code = some .maybeReady) :
    Asking plan start hs r ∧ k < plan.length := by
  have hne : r.call.phase ≠ .over := by rw [hp]; nofun
  obtain ⟨hcalls, hnone, hkeep, a, hpa, hcode⟩ := (hp ▸ d.standing).of_answered
  obtain ⟨hk, ha⟩ := List.getElem?_eq_some_iff.1 hpa
  have hagain : code = PollCode.maybeReady.toInt8 := (PollCode.toInt8_of_ofInt8? hc).symm
  have hkept := d.held hne
  rw [Held, hp] at hkept
  refine ⟨⟨⟨hcalls, d.script hne, d.issued⟩, hkept, by rw [d.length]; exact hk, ?_, hnone, hkeep,
    .inr (by rw [hp, hagain])⟩, hk⟩
  intro b hb
  rw [d.length, List.take_succ_eq_append_getElem hk, List.mem_append, List.mem_singleton] at hb
  rcases hb with hb | hb
  · exact d.again b hb
  · rw [hb, ha, hcode, hagain]

/-- A call that is given up is cancelled and freed. -/
theorem Disciplined.abandoned (d : Disciplined plan start k hs r) (hne : r.call.phase ≠ .over)
    {outcome : Option (Except CallError α)} {dropped : Bool}
    (hst : Standing plan k (hs.map .poll) .over (hs.map .poll ++ [.cancel, .free]) outcome
      dropped) :
    let call := AsyncCall.abandon ScriptedFuture.entries r.call
    call.phase = .over ∧ Disciplined plan start k hs { r with call, outcome, dropped } := by
  intro call
  have hover : call.phase = .over := AsyncCall.abandon_phase r.call ScriptedFuture.entries
  have hcalls : call.calls = hs.map .poll ++ [.cancel, .free] := by
    rw [← (d.standing.live hne).1]
    exact AsyncCall.abandon_calls r.call ScriptedFuture.entries
  refine ⟨hover, d.length, d.le, d.again, ?_, ?_, fun h => absurd hover h,
    fun h => absurd hover h⟩
  · show Standing plan k _ call.phase call.calls outcome dropped
    rw [hover, hcalls]
    exact hst
  · exact d.issued.of_next (AsyncCall.abandon_next r.call ScriptedFuture.entries)

section Resuming

variable (S : Schema) (A : Allocator ScriptedFuture) (errorType : WireType)
  (lift : Lowered → EStateM WireError ScriptedFuture α)

/-- Any other answer ends the call. -/
theorem Disciplined.ended (d : Disciplined plan start k hs r) (n : Nat) {code : Int8}
    (hp : r.call.phase = .answered code) (hc : PollCode.ofInt8? code ≠ some .maybeReady) :
    let out := AsyncCall.advance ScriptedFuture.entries S A errorType lift (n + 1) r.call
    out.2.phase = .over ∧ Disciplined plan start k hs (r.took out) := by
  intro out
  have hne : r.call.phase ≠ .over := by rw [hp]; nofun
  obtain ⟨hcalls, -, hkeep, a, hpa, hcode⟩ := (hp ▸ d.standing).of_answered
  cases hk : PollCode.ofInt8? code with
  | none =>
    have hout : out = _ := AsyncCall.advance_unknown hp hk
    have hst : Standing plan k (hs.map .poll) .over (hs.map .poll ++ [.cancel, .free])
        (some (.error (.internal (.unknownPoll code))) : Option (Except CallError α))
        r.dropped := by
      rw [hkeep, ← hcode]
      exact .refused a hpa (by rw [hcode, hk])
    rw [hout]
    exact d.abandoned hne hst
  | some p =>
    cases p with
    | maybeReady => exact absurd hk hc
    | ready =>
      have hready : code = PollCode.ready.toInt8 := (PollCode.toInt8_of_ofInt8? hk).symm
      have hout : out = _ := AsyncCall.advance_ready (hp.trans (by rw [hready]))
      rw [hout]
      refine ⟨rfl, d.length, d.le, d.again, ?_, d.issued.of_next rfl, fun h => absurd rfl h,
        fun h => absurd rfl h⟩
      show Standing plan k _ .over
        (AsyncCall.finish ScriptedFuture.entries S A errorType lift r.call).2.calls _ r.dropped
      rw [AsyncCall.finish_calls, hcalls, hkeep]
      exact .finished a _ hpa (by rw [hcode, hready])

/-- The loop polls the native side as long as it is asked to at once, and it has enough steps for
that. -/
theorem advance_disciplined (n : Nat) {hs : List Handle} {r : CallRun α}
    (ha : Asking plan start hs r) (hn : plan.length - hs.length + 2 ≤ n) :
    let out := AsyncCall.advance ScriptedFuture.entries S A errorType lift n r.call
    (∀ code, out.2.phase ≠ .answered code) ∧
      ∃ k hs', Disciplined plan start k hs' (r.took out) := by
  induction n generalizing hs r with
  | zero => omega
  | succ n ih =>
    obtain ⟨hne, d⟩ := issue_disciplined ha
    rw [AsyncCall.advance_issue ha.phase]
    obtain ⟨-, -, -, ⟨h, hph⟩ | ⟨a, hpa, hph⟩⟩ := d.standing.live hne
    · rw [AsyncCall.advance_waiting hph]
      refine ⟨?_, _, _, d⟩
      intro code hcode
      rw [hph] at hcode
      cases hcode
    · by_cases hc : PollCode.ofInt8? a.code = some .maybeReady
      · -- one more answer of the plan is used up, so the steps left are enough
        obtain ⟨ha', hlt⟩ := d.asking hph hc
        refine ih ha' ?_
        rw [List.length_append, List.length_singleton]
        omega
      · -- the step in which the call ends is one more
        obtain ⟨n, rfl⟩ : ∃ m, n = m + 1 := ⟨n - 1, by omega⟩
        obtain ⟨hover, d'⟩ := d.ended S A errorType lift n hph hc
        refine ⟨?_, _, _, d'⟩
        intro code hcode
        rw [hover] at hcode
        cases hcode

/-- A poll by the executor leaves no answer standing. -/
theorem Disciplined.resume (d : Disciplined plan start k hs r) :
    let out := r.call.poll ScriptedFuture.entries S A errorType lift
    (∀ code, out.2.phase ≠ .answered code) ∧
      ∃ k hs', Disciplined plan start k hs' (r.took out) := by
  intro out
  by_cases hp : r.call.phase = .over
  · have hout : out = (.gone, r.call) := AsyncCall.advance_over hp
    rw [hout]
    exact ⟨by rw [hp]; nofun, k, hs, d⟩
  · have hscript : ScriptedFuture.entries.patience r.call.native = plan.length - hs.length := by
      show r.call.native.script.length = _
      rw [d.script hp, List.length_map, List.length_drop]
    obtain ⟨-, -, -, ⟨h, hph⟩ | ⟨a, hpa, hph⟩⟩ := d.standing.live hp
    · have hout : out = (.pending, r.call) := AsyncCall.advance_waiting hph
      rw [hout]
      exact ⟨by rw [hph]; nofun, k, hs, d⟩
    · by_cases hc : PollCode.ofInt8? a.code = some .maybeReady
      · exact advance_disciplined S A errorType lift _ (d.asking hph hc).1
          (Nat.le_of_eq (by rw [hscript]))
      · obtain ⟨hend, d'⟩ := d.ended S A errorType lift _ hph hc
        have hend : out.2.phase = .over := hend
        exact ⟨by rw [hend]; nofun, k, hs, d'⟩

end Resuming

end CallBoundary.Host
