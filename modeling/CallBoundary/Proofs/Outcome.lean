import CallBoundary.Buffer.Heap

/-!
# How computations end

The outcome of a computation that may fail, apart from the state that it leaves, with one equation
for each way in which two computations follow each other; and, apart from the outcome, what a
computation leaves as it is.
-/

namespace CallBoundary

variable {ε σ τ α β : Type}

/-- How a computation ends. -/
def outcome (m : EStateM ε σ α) (s : σ) : Except ε α := (attempt m s).1

theorem attempt_ok {m : EStateM ε σ α} {s s' : σ} {a : α} (h : m s = .ok a s') :
    attempt m s = (.ok a, s') := by
  rw [attempt, h]

theorem attempt_error {m : EStateM ε σ α} {s s' : σ} {e : ε} (h : m s = .error e s') :
    attempt m s = (.error e, s') := by
  rw [attempt, h]

theorem of_attempt_ok {m : EStateM ε σ α} {s s' : σ} {a : α} (h : attempt m s = (.ok a, s')) :
    m s = .ok a s' := by
  cases hm : m s with
  | ok b s₁ =>
    rw [attempt_ok hm] at h
    cases h
    rfl
  | error e s₁ =>
    rw [attempt_error hm] at h
    cases h

theorem of_attempt_error {m : EStateM ε σ α} {s s' : σ} {e : ε}
    (h : attempt m s = (.error e, s')) : m s = .error e s' := by
  cases hm : m s with
  | ok b s₁ =>
    rw [attempt_ok hm] at h
    cases h
  | error e' s₁ =>
    rw [attempt_error hm] at h
    cases h
    rfl

theorem outcome_error {m : EStateM ε σ α} {s s' : σ} {e : ε} (h : m s = .error e s') :
    outcome m s = .error e := by
  rw [outcome, attempt_error h]

theorem attempt_ofExcept (x : Except ε α) (s : σ) :
    attempt (ofExcept x : EStateM ε σ α) s = (x, s) := by
  cases x with
  | ok a => rfl
  | error e => rfl

theorem ofExcept_of_ok {x : Except ε α} {a : α} (h : x = .ok a) (s : σ) :
    (ofExcept x : EStateM ε σ α) s = .ok a s := by
  rw [h]
  rfl

theorem ofExcept_of_error {x : Except ε α} {e : ε} (h : x = .error e) (s : σ) :
    (ofExcept x : EStateM ε σ α) s = .error e s := by
  rw [h]
  rfl

theorem ofExcept_ok {x : Except ε α} {s s' : σ} {a : α}
    (h : (ofExcept x : EStateM ε σ α) s = .ok a s') : x = .ok a ∧ s = s' := by
  cases x with
  | ok b =>
    cases h
    exact ⟨rfl, rfl⟩
  | error e => cases h

theorem bind_of_ok {m : EStateM ε σ α} {s s' : σ} {a : α} (h : m s = .ok a s')
    (f : α → EStateM ε σ β) : (m >>= f) s = f a s' := by
  show EStateM.bind m f s = _
  unfold EStateM.bind
  rw [h]

theorem bind_of_error {m : EStateM ε σ α} {s s' : σ} {e : ε} (h : m s = .error e s')
    (f : α → EStateM ε σ β) : (m >>= f) s = .error e s' := by
  show EStateM.bind m f s = _
  unfold EStateM.bind
  rw [h]

/-- What succeeds has succeeded in its first step and then in the rest. -/
theorem bind_ok {m : EStateM ε σ α} {f : α → EStateM ε σ β} {s s' : σ} {b : β}
    (h : (m >>= f) s = .ok b s') : ∃ a s₁, m s = .ok a s₁ ∧ f a s₁ = .ok b s' := by
  cases hm : m s with
  | ok a s₁ =>
    rw [bind_of_ok hm] at h
    exact ⟨a, s₁, rfl, h⟩
  | error e s₁ =>
    rw [bind_of_error hm] at h
    cases h

/-- What fails has failed in its first step, or in the rest after that succeeded. -/
theorem bind_failed {m : EStateM ε σ α} {f : α → EStateM ε σ β} {s s' : σ} {e : ε}
    (h : (m >>= f) s = .error e s') :
    m s = .error e s' ∨ ∃ a s₁, m s = .ok a s₁ ∧ f a s₁ = .error e s' := by
  cases hm : m s with
  | ok a s₁ =>
    rw [bind_of_ok hm] at h
    exact .inr ⟨a, s₁, rfl, h⟩
  | error e' s₁ =>
    rw [bind_of_error hm] at h
    cases h
    exact .inl rfl

theorem pure_ok {a b : α} {s s' : σ} (h : (pure a : EStateM ε σ α) s = .ok b s') :
    a = b ∧ s = s' := by
  cases h
  exact ⟨rfl, rfl⟩

theorem attempt_bind_of_ok {m : EStateM ε σ α} {s s' : σ} {a : α} (h : m s = .ok a s')
    (f : α → EStateM ε σ β) : attempt (m >>= f) s = attempt (f a) s' := by
  unfold attempt
  rw [bind_of_ok h]

theorem attempt_map (m : EStateM ε σ α) (g : α → β) (s : σ) :
    attempt (m >>= fun a => pure (g a)) s = ((attempt m s).1.map g, (attempt m s).2) := by
  cases h : m s with
  | ok a s' =>
    rw [attempt_bind_of_ok h, attempt_ok h]
    rfl
  | error e s' =>
    rw [attempt_error (bind_of_error h _), attempt_error h]
    rfl

theorem outcome_bind_of_ok {m : EStateM ε σ α} {s s' : σ} {a : α} (h : m s = .ok a s')
    (f : α → EStateM ε σ β) : outcome (m >>= f) s = outcome (f a) s' :=
  congrArg Prod.fst (attempt_bind_of_ok h f)

theorem liftM_eq {m : StateM σ α} {s s' : σ} {a : α} (h : m s = (a, s')) :
    (liftM m : EStateM ε σ α) s = .ok a s' := by
  show (let (a, s) := m s; EStateM.Result.ok a s) = _
  rw [h]

/-- An outcome taken as an answer. -/
theorem liftM_attempt {ε' : Type} (m : EStateM ε σ α) (s : σ) :
    (liftM (attempt m) : EStateM ε' σ _) s = .ok (attempt m s).1 (attempt m s).2 := rfl

theorem liftM_attempt_of_ok {ε' : Type} {m : EStateM ε σ α} {s s' : σ} {a : α}
    (h : m s = .ok a s') : (liftM (attempt m) : EStateM ε' σ _) s = .ok (.ok a) s' := by
  rw [liftM_attempt, attempt_ok h]

theorem stateM_bind (m : StateM σ α) (f : α → StateM σ β) (s : σ) :
    (m >>= f) s = f (m s).1 (m s).2 := rfl

theorem stateM_mapM_cons (f : α → StateM σ β) (x : α) (xs : List α) (s : σ) :
    (x :: xs).mapM f s = ((f x s).1 :: (xs.mapM f (f x s).2).1, (xs.mapM f (f x s).2).2) := by
  rw [List.mapM_cons]
  rfl

theorem stateM_mapM_snoc (f : α → StateM σ β) (xs : List α) (x : α) (s : σ) :
    (xs ++ [x]).mapM f s =
      ((xs.mapM f s).1 ++ [(f x (xs.mapM f s).2).1], (f x (xs.mapM f s).2).2) := by
  induction xs generalizing s with
  | nil => exact stateM_mapM_cons f x [] s
  | cons y xs ih =>
    rw [List.cons_append, stateM_mapM_cons, ih, stateM_mapM_cons]
    rfl

/-! ### What is left as it is -/

/-- A computation leaves this part of the state as it is, however it ends. -/
def Keeps (f : σ → τ) (m : StateM σ α) : Prop := ∀ s, f (m s).2 = f s

section Keeps

variable {f : σ → τ}

theorem keeps_pure (a : α) : Keeps f (pure a) := fun _ => rfl

theorem Keeps.bind {m : StateM σ α} {g : α → StateM σ β} (hm : Keeps f m)
    (hg : ∀ a, Keeps f (g a)) : Keeps f (m >>= g) := by
  intro s
  rw [stateM_bind]
  exact (hg _ _).trans (hm s)

theorem Keeps.attempt_liftM {m : StateM σ α} (hm : Keeps f m) :
    Keeps f (attempt (liftM m : EStateM ε σ α)) := hm

theorem keeps_ofExcept (x : Except ε α) : Keeps f (attempt (ofExcept x : EStateM ε σ α)) := by
  intro s
  rw [attempt_ofExcept]

theorem Keeps.attempt_bind {m : EStateM ε σ α} {g : α → EStateM ε σ β}
    (hm : Keeps f (attempt m)) (hg : ∀ a, Keeps f (attempt (g a))) :
    Keeps f (attempt (m >>= g)) := by
  intro s
  have hs := hm s
  cases h : m s with
  | ok a s' =>
    rw [attempt_ok h] at hs
    have hgs := hg a s'
    unfold attempt at hgs ⊢
    rw [bind_of_ok h]
    exact hgs.trans hs
  | error e s' =>
    rw [attempt_error h] at hs
    rw [attempt_error (bind_of_error h g)]
    exact hs

/-- A computation on a part leaves all else as it is. -/
theorem keeps_onPart {ρ : Type} {part : σ → ρ} {update : σ → ρ → σ}
    (hf : ∀ s p, f (update s p) = f s) (m : EStateM ε ρ α) :
    Keeps f (attempt (onPart part update m)) := by
  intro s
  unfold attempt onPart
  cases m (part s) with
  | ok a p => exact hf s p
  | error e p => exact hf s p

end Keeps

end CallBoundary
