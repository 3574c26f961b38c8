import CallBoundary.Host.AsyncCall
import CallBoundary.Proofs.Host.Handles

/-!
# What the steps of a call do

Whatever the native side is, an answer only touches the continuations and the phase, and a call
that is over stays over.  A poll issues one handle, and the ways in which a call ends make two more
native calls each: `complete` and `free` (`finish_calls`), or `cancel` and `free`
(`abandon_calls`).  The steps of `advance` are told apart by the phase that it starts in.
-/

namespace CallBoundary

theorem PollCode.toInt8_of_ofInt8? {code : Int8} {p : PollCode} (h : ofInt8? code = some p) :
    p.toInt8 = code := by
  unfold ofInt8? at h
  split at h
  · cases h; rfl
  · cases h; rfl
  · cases h

namespace Host.AsyncCall

/-! ### Answers -/

variable (c : AsyncCall σ) (a : Answer)

/-- The continuation is not parked. -/
theorem receive_of_none (hf : c.continuations.find? a.continuation = none) : c.receive a = c := by
  rw [receive, HandleTable.remove_of_none hf]

/-- The continuation is parked. -/
theorem receive_of_some (hf : c.continuations.find? a.continuation = some ()) :
    c.receive a = { c with
      continuations := c.continuations.erase a.continuation
      phase := if c.phase = .waiting a.continuation then .answered a.code else c.phase } := by
  rw [receive, HandleTable.remove_of_find? hf]

/-- The answer that the call waits for. -/
theorem receive_of_waiting (hf : c.continuations.find? a.continuation = some ())
    (hp : c.phase = .waiting a.continuation) :
    c.receive a = { c with
      continuations := c.continuations.erase a.continuation, phase := .answered a.code } := by
  rw [receive_of_some c a hf, if_pos hp]

/-- An answer that the call does not wait for. -/
theorem receive_of_ne (hp : c.phase ≠ .waiting a.continuation) :
    c.receive a = c ∨
      c.receive a = { c with continuations := c.continuations.erase a.continuation } := by
  cases hf : c.continuations.find? a.continuation with
  | none => exact .inl (receive_of_none c a hf)
  | some u =>
    right
    rw [receive_of_some c a hf, if_neg hp]

/-- An answer touches nothing but the entries of the table and the phase. -/
theorem receive_frame : ∃ t phase, c.receive a = { c with continuations := t, phase } ∧
    t.next = c.continuations.next := by
  cases hf : c.continuations.find? a.continuation with
  | none => exact ⟨_, _, receive_of_none c a hf, rfl⟩
  | some u => exact ⟨_, _, receive_of_some c a hf, rfl⟩

theorem receive_calls : (c.receive a).calls = c.calls := by
  obtain ⟨t, phase, h, -⟩ := receive_frame c a
  rw [h]

theorem receive_native : (c.receive a).native = c.native := by
  obtain ⟨t, phase, h, -⟩ := receive_frame c a
  rw [h]

theorem receive_next : (c.receive a).continuations.next = c.continuations.next := by
  obtain ⟨t, phase, h, hn⟩ := receive_frame c a
  rw [h, hn]

/-- Nothing revives a call that is over. -/
theorem receive_over (hp : c.phase = .over) : (c.receive a).phase = .over := by
  have hne : c.phase ≠ .waiting a.continuation := by rw [hp]; nofun
  rcases receive_of_ne c a hne with h | h
  · rw [h, hp]
  · rw [h, hp]

/-- A call of a continuation from outside differs from one during a poll in the wake-up only. -/
theorem fire_eq : ∃ wakes, c.fire a = { c.receive a with wakes } := by
  unfold fire
  by_cases hp : (c.receive a).phase = c.phase
  · exact ⟨_, if_pos hp⟩
  · exact ⟨_, if_neg hp⟩

/-- What no answer changes stays as it is under any number of them. -/
theorem foldl_receive {P : AsyncCall σ → Prop} (hP : ∀ c a, P c → P (c.receive a))
    (as : List Answer) {c : AsyncCall σ} (hc : P c) : P (as.foldl receive c) := by
  induction as generalizing c with
  | nil => exact hc
  | cons a as ih => exact ih (hP c a hc)

/-! ### Polling -/

variable (F : FutureEntries σ)

/-- A poll that leaves its continuation unanswered. -/
theorem issue_unanswered {s : σ} (hp : F.poll c.continuations.next c.native = ([], s)) :
    issue F c = { c with
      native := s
      continuations := (c.continuations.insert ()).2
      phase := .waiting c.continuations.next
      calls := c.calls ++ [.poll c.continuations.next] } := by
  have hnoted : F.recorded.poll c.continuations.next c.toRecorded = _ := FutureEntries.noted_eq hp
  simp only [issue, HandleTable.insert, hnoted]
  rfl

/-- A poll that is answered at once. -/
theorem issue_answered {s : σ} {code : Int8}
    (hp : F.poll c.continuations.next c.native = ([⟨c.continuations.next, code⟩], s)) :
    issue F c = { c with
      native := s
      continuations := (c.continuations.insert ()).2.erase c.continuations.next
      phase := .answered code
      calls := c.calls ++ [.poll c.continuations.next] } := by
  have hnoted : F.recorded.poll c.continuations.next c.toRecorded = _ := FutureEntries.noted_eq hp
  simp only [issue, HandleTable.insert, hnoted]
  exact receive_of_waiting _ _ (HandleTable.find?_insert_self ()) rfl

/-! ### Endings -/

variable (S : Schema) (A : Allocator σ) (errorType : WireType)
  (lift : Lowered → EStateM WireError σ α)

theorem free_eq {s : σ} (hf : F.free c.native = ((), s)) :
    free F c = { c with native := s, calls := c.calls ++ [.free] } := by
  have hnoted : F.recorded.free c.toRecorded = _ := FutureEntries.noted_eq hf
  rw [free, hnoted]

theorem finish_calls :
    (finish F S A errorType lift c).2.calls = c.calls ++ [.complete, .free] :=
  List.append_assoc ..

/-- The call while the native side is told that it is cancelled. -/
def cancelling (c : AsyncCall σ) : AsyncCall σ :=
  { c with native := (F.cancel c.native).2, calls := c.calls ++ [.cancel], phase := .over }

/-- The native side is told that the call is cancelled, and then that it is freed. -/
theorem abandon_eq : abandon F c =
    free F ((F.cancel c.native).1.foldl receive (cancelling F c)) := rfl

theorem abandon_calls : (abandon F c).calls = c.calls ++ [.cancel, .free] := by
  have hr := foldl_receive (P := fun c' => c'.calls = c.calls ++ [.cancel])
    (fun c' a h => (receive_calls c' a).trans h) (F.cancel c.native).1 (c := cancelling F c) rfl
  rw [abandon_eq]
  show List.append (List.foldl receive (cancelling F c) (F.cancel c.native).1).calls [.free] = _
  rw [hr]
  exact List.append_assoc ..

theorem abandon_phase : (abandon F c).phase = .over :=
  foldl_receive (P := fun c' => c'.phase = .over) (fun c' a h => receive_over c' a h)
    (F.cancel c.native).1 (c := cancelling F c) rfl

theorem abandon_next : (abandon F c).continuations.next = c.continuations.next :=
  foldl_receive (P := fun c' => c'.continuations.next = c.continuations.next)
    (fun c' a h => (receive_next c' a).trans h) (F.cancel c.native).1 (c := cancelling F c) rfl

/-! ### Advancing -/

section Advancing

variable {c F S A errorType lift} {n : Nat}

theorem advance_succ : advance F S A errorType lift (n + 1) c =
    match c.phase with
    | .unstarted => advance F S A errorType lift n (issue F c)
    | .waiting _ => (.pending, c)
    | .answered code =>
      match PollCode.ofInt8? code with
      | some .ready =>
        (.ready (finish F S A errorType lift c).1, (finish F S A errorType lift c).2)
      | some .maybeReady => advance F S A errorType lift n (issue F c)
      | none => (.ready (.error (.internal (.unknownPoll code))), abandon F c)
    | .over => (.gone, c) := rfl

/-- A call that nobody has polled, or that is asked to poll again, polls. -/
theorem advance_issue
    (hp : c.phase = .unstarted ∨ c.phase = .answered PollCode.maybeReady.toInt8) :
    advance F S A errorType lift (n + 1) c = advance F S A errorType lift n (issue F c) := by
  rcases hp with hp | hp
  · rw [advance_succ, hp]
  · rw [advance_succ, hp]
    rfl

/-- A call that waits stays as it is. -/
theorem advance_waiting {h : Handle} (hp : c.phase = .waiting h) :
    advance F S A errorType lift n c = (.pending, c) := by
  cases n with
  | zero => rfl
  | succ n => rw [advance_succ, hp]

theorem advance_ready (hp : c.phase = .answered PollCode.ready.toInt8) :
    advance F S A errorType lift (n + 1) c =
      (.ready (finish F S A errorType lift c).1, (finish F S A errorType lift c).2) := by
  rw [advance_succ, hp]
  rfl

/-- An answer that makes no sense ends the call. -/
theorem advance_unknown {code : Int8} (hp : c.phase = .answered code)
    (hu : PollCode.ofInt8? code = none) :
    advance F S A errorType lift (n + 1) c =
      (.ready (.error (.internal (.unknownPoll code))), abandon F c) := by
  rw [advance_succ, hp]
  simp only [hu]

theorem advance_over (hp : c.phase = .over) :
    advance F S A errorType lift (n + 1) c = (.gone, c) := by
  rw [advance_succ, hp]

/-! ### Dropping -/

theorem drop_unstarted (hp : c.phase = .unstarted) :
    c.drop F = (true, { c with phase := .over }) := by
  rw [drop, hp]

theorem drop_over (hp : c.phase = .over) : c.drop F = (false, c) := by
  rw [drop, hp]

theorem drop_waiting {h : Handle} (hp : c.phase = .waiting h) :
    c.drop F = (true, abandon F c) := by
  rw [drop, hp]

theorem drop_answered {code : Int8} (hp : c.phase = .answered code) :
    c.drop F = (true, abandon F c) := by
  rw [drop, hp]

end Advancing

end Host.AsyncCall

end CallBoundary
