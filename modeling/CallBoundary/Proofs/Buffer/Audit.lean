import CallBoundary.Proofs.Outcome

/-!
# Auditing an allocator

To tell what a computation asks of an allocator, every call is noted with its answer
(`Allocator.audited`), and `liveAfter` says which blocks have been handed out and not taken back.
The computation does not notice: it ends as it does without the audit, and the calls that are noted
do not depend on those that were noted before (`Notes`, `audit_notes`).
-/

namespace CallBoundary

variable {σ α : Type}

/-! ### Calls and what they leave live -/

/-- A call to an allocator, with the answer it got. -/
inductive AllocatorCall where
  | alloc (size : Nat) (answer : Except WireError Buffer)
  | free (b : Buffer) (answer : Except WireError Unit)

/-- The blocks that are live after a call, given those before it. -/
def AllocatorCall.after (live : List Nat) : AllocatorCall → List Nat
  | alloc _ (.ok b) => b.address?.toList ++ live
  | free b (.ok ()) => b.address?.elim live live.erase
  | _ => live

/-- The blocks that are live after some calls, given those before them. -/
def liveAfter (live : List Nat) (calls : List AllocatorCall) : List Nat :=
  calls.foldl AllocatorCall.after live

/-- What is handed out is given back, and all is as before. -/
theorem liveAfter_returned (live : List Nat) (n : Nat) (b : Buffer) :
    liveAfter live [.alloc n (.ok b), .free b (.ok ())] = live := by
  simp only [liveAfter, List.foldl, AllocatorCall.after]
  cases b.address? with
  | none => rfl
  | some a => exact List.erase_cons_head ..

theorem liveAfter_append (live : List Nat) (calls more : List AllocatorCall) :
    liveAfter live (calls ++ more) = liveAfter (liveAfter live calls) more :=
  List.foldl_append

/-- The block that is lost in a call, for it is not taken back. -/
def AllocatorCall.lost? : AllocatorCall → Option Nat
  | free b (.error _) => b.address?
  | _ => none

/-! ### The audit -/

/-- A computation that notes how it ends. -/
def noting {ε κ : Type} (note : Except ε α → κ) (m : EStateM ε σ α) :
    EStateM ε (σ × List κ) α := fun t =>
  match m t.1 with
  | .ok a s => .ok a (s, t.2 ++ [note (.ok a)])
  | .error e s => .error e (s, t.2 ++ [note (.error e)])

/-- An allocator that notes each call with its answer. -/
def Allocator.audited (A : Allocator σ) : Allocator (σ × List AllocatorCall) where
  alloc size := noting (.alloc size) (A.alloc size)
  free b := noting (.free b) (A.free b)

section Audited

variable {A : Allocator σ} {s s' : σ} (calls : List AllocatorCall)

theorem audited_alloc_ok {n : Nat} {b : Buffer} (h : A.alloc n s = .ok b s') :
    A.audited.alloc n (s, calls) = .ok b (s', calls ++ [.alloc n (.ok b)]) := by
  simp only [Allocator.audited, noting, h]

theorem audited_alloc_error {n : Nat} {e : WireError} (h : A.alloc n s = .error e s') :
    A.audited.alloc n (s, calls) = .error e (s', calls ++ [.alloc n (.error e)]) := by
  simp only [Allocator.audited, noting, h]

theorem audited_free_ok {b : Buffer} (h : A.free b s = .ok () s') :
    A.audited.free b (s, calls) = .ok () (s', calls ++ [.free b (.ok ())]) := by
  simp only [Allocator.audited, noting, h]

theorem audited_free_error {b : Buffer} {e : WireError} (h : A.free b s = .error e s') :
    A.audited.free b (s, calls) = .error e (s', calls ++ [.free b (.error e)]) := by
  simp only [Allocator.audited, noting, h]

end Audited

/-- How a computation with an audited allocator ends, and the calls it makes. -/
def audit (A : Allocator σ)
    (m : Allocator (σ × List AllocatorCall) → EStateM WireError (σ × List AllocatorCall) α)
    (s : σ) : Except WireError α × List AllocatorCall :=
  let (r, t) := attempt (m A.audited) (s, [])
  (r, t.2)

theorem audit_ok {A : Allocator σ}
    {m : Allocator (σ × List AllocatorCall) → EStateM WireError (σ × List AllocatorCall) α}
    {s s' : σ} {a : α} {calls : List AllocatorCall}
    (h : m A.audited (s, []) = .ok a (s', calls)) : audit A m s = (.ok a, calls) := by
  rw [audit, attempt_ok h]

theorem audit_error {A : Allocator σ}
    {m : Allocator (σ × List AllocatorCall) → EStateM WireError (σ × List AllocatorCall) α}
    {s s' : σ} {e : WireError} {calls : List AllocatorCall}
    (h : m A.audited (s, []) = .error e (s', calls)) : audit A m s = (.error e, calls) := by
  rw [audit, attempt_error h]

/-! ### An audit changes nothing -/

/-- From this state a computation ends as another one does, and these are its notes, whatever was
noted before. -/
def Notes {κ : Type} (m' : StateM (σ × List κ) α) (m : StateM σ α) (s : σ) (notes : List κ) : Prop :=
  ∀ log, m' (s, log) = ((m s).1, (m s).2, log ++ notes)

/-- From every state a computation ends as another one does, and only notes something. -/
def Mirrors {ε κ : Type} (m' : EStateM ε (σ × List κ) α) (m : EStateM ε σ α) : Prop :=
  ∀ s, ∃ notes, Notes (attempt m') (attempt m) s notes

section Notes

variable {ε κ β : Type} {s : σ} {notes more : List κ}

theorem notes_pure (a : α) (s : σ) : Notes (κ := κ) (pure a) (pure a) s [] := by
  intro log
  rw [List.append_nil]
  rfl

theorem Notes.bind {m' : StateM (σ × List κ) α} {m : StateM σ α} {f' : α → StateM (σ × List κ) β}
    {f : α → StateM σ β} (hm : Notes m' m s notes)
    (hf : Notes (f' (m s).1) (f (m s).1) (m s).2 more) :
    Notes (m' >>= f') (m >>= f) s (notes ++ more) := by
  intro log
  rw [stateM_bind, stateM_bind, hm log, hf, List.append_assoc]

/-- The rest notes nothing. -/
theorem Notes.bind_nil {m' : StateM (σ × List κ) α} {m : StateM σ α}
    {f' : α → StateM (σ × List κ) β} {f : α → StateM σ β} (hm : Notes m' m s notes)
    (hf : Notes (f' (m s).1) (f (m s).1) (m s).2 []) : Notes (m' >>= f') (m >>= f) s notes := by
  have h := hm.bind hf
  rwa [List.append_nil] at h

theorem notes_ofExcept (x : Except ε α) (s : σ) :
    Notes (κ := κ) (attempt (ofExcept x : EStateM ε _ α)) (attempt (ofExcept x : EStateM ε σ α)) s
      [] := by
  intro log
  rw [attempt_ofExcept, attempt_ofExcept, List.append_nil]

theorem notes_noting (note : Except ε α → κ) (m : EStateM ε σ α) (s : σ) :
    Notes (attempt (noting note m)) (attempt m) s [note (outcome m s)] := by
  intro log
  unfold outcome
  cases h : m s with
  | ok a s₁ => simp only [attempt, noting, h]
  | error e s₁ => simp only [attempt, noting, h]

/-- What cannot fail is followed likewise by what may. -/
theorem Notes.liftM_bind_nil {m' : StateM (σ × List κ) α} {m : StateM σ α}
    {f' : α → EStateM ε (σ × List κ) β} {f : α → EStateM ε σ β} (hm : Notes m' m s notes)
    (hf : Notes (attempt (f' (m s).1)) (attempt (f (m s).1)) (m s).2 []) :
    Notes (attempt (liftM m' >>= f')) (attempt (liftM m >>= f)) s notes := by
  show Notes (m' >>= fun a => attempt (f' a)) (m >>= fun a => attempt (f a)) s notes
  exact hm.bind_nil hf

theorem Notes.check_bind {x : Except ε α} {a : α} {f' : α → EStateM ε (σ × List κ) β}
    {f : α → EStateM ε σ β} (passed : x = .ok a)
    (hf : Notes (attempt (f' a)) (attempt (f a)) s notes) :
    Notes (attempt (ofExcept x >>= f')) (attempt (ofExcept x >>= f)) s notes := by
  rw [passed]
  exact hf

theorem mirrors_ofExcept (x : Except ε α) :
    Mirrors (κ := κ) (ofExcept x : EStateM ε (σ × List κ) α) (ofExcept x) :=
  fun s => ⟨[], notes_ofExcept x s⟩

theorem mirrors_noting (note : Except ε α → κ) (m : EStateM ε σ α) :
    Mirrors (noting note m) m :=
  fun s => ⟨_, notes_noting note m s⟩

theorem Mirrors.bind {m' : EStateM ε (σ × List κ) α} {m : EStateM ε σ α}
    {f' : α → EStateM ε (σ × List κ) β} {f : α → EStateM ε σ β} (hm : Mirrors m' m)
    (hf : ∀ a, Mirrors (f' a) (f a)) : Mirrors (m' >>= f') (m >>= f) := by
  intro s
  obtain ⟨notes, hnotes⟩ := hm s
  cases h : m s with
  | ok a s₁ =>
    obtain ⟨more, hmore⟩ := hf a s₁
    refine ⟨notes ++ more, fun log => ?_⟩
    have hrun := hnotes log
    rw [attempt_ok h] at hrun
    rw [attempt_bind_of_ok h, attempt_bind_of_ok (of_attempt_ok hrun), hmore, List.append_assoc]
  | error e s₁ =>
    refine ⟨notes, fun log => ?_⟩
    have hrun := hnotes log
    rw [attempt_error h] at hrun
    rw [attempt_error (bind_of_error h f), attempt_error (bind_of_error (of_attempt_error hrun) f')]

end Notes

theorem notes_free (A : Allocator σ) (b : Buffer) (s : σ) :
    Notes (attempt (A.audited.free b)) (attempt (A.free b)) s [.free b (outcome (A.free b) s)] :=
  notes_noting (AllocatorCall.free b) (A.free b) s

/-- A computation that only uses an allocator ends as without the audit, and its calls do not depend
on what was noted before. -/
theorem audit_notes {A : Allocator σ}
    (m : Allocator (σ × List AllocatorCall) → EStateM WireError (σ × List AllocatorCall) α)
    {m₀ : EStateM WireError σ α} (h : Mirrors (m A.audited) m₀) (s : σ) :
    outcome m₀ s = (audit A m s).1 ∧
      Notes (attempt (m A.audited)) (attempt m₀) s (audit A m s).2 := by
  obtain ⟨notes, hnotes⟩ := h s
  have hrun := hnotes []
  have haudit : audit A m s = (outcome m₀ s, notes) := by
    unfold audit outcome
    rw [hrun, List.nil_append]
  rw [haudit]
  exact ⟨rfl, hnotes⟩

theorem audit_outcome {A : Allocator σ}
    (m : Allocator (σ × List AllocatorCall) → EStateM WireError (σ × List AllocatorCall) α)
    {m₀ : EStateM WireError σ α} (h : Mirrors (m A.audited) m₀) (s : σ) :
    outcome m₀ s = (audit A m s).1 := (audit_notes m h s).1

end CallBoundary
