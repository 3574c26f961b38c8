import CallBoundary.Native.Callback
import CallBoundary.Proofs.Host.Entries
import CallBoundary.Proofs.Host.Relay

/-!
# Watching one block

A buffer that is passed by value has no owner to clean up after it, so its data is given back only
where the code says so.  To tell how often that is, one block is watched through a computation
(`Watch.Gives`), with one rule for each way to go on.  Lifting from a buffer gives its data back
once, whatever becomes of the value; all other things that either side does with its allocator have
blocks of their own, and spare the one that is watched (`Watch.Sparing`).
-/

namespace CallBoundary

variable {σ α β ε : Type}

/-- From one account of a heap to the next, the block at an address was given back so often. -/
structure Heap.GivenBack (a k : Nat) (h h' : Heap) : Prop where
  released : h'.released.count a = h.released.count a + k
  live : h'.live.count a = h.live.count a - k

namespace Heap.GivenBack

variable {a k k' : Nat} {h h' h'' : Heap}

theorem refl (a : Nat) (h : Heap) : GivenBack a 0 h h := ⟨rfl, rfl⟩

theorem trans (hk : GivenBack a k h h') (hk' : GivenBack a k' h' h'') :
    GivenBack a (k + k') h h'' := by
  constructor
  · rw [hk'.released, hk.released, Nat.add_assoc]
  · rw [hk'.live, hk.live, Nat.sub_sub]

/-- A new block is another one. -/
theorem place (old : a < h.next) (bs : Bytes) (n : Nat) : GivenBack a 0 h (h.place bs n).2 := by
  refine ⟨rfl, ?_⟩
  exact List.count_cons_of_ne (Nat.ne_of_gt old)

/-- The block at an address is given back, if it is this one. -/
theorem release (a x : Nat) (h : Heap) : GivenBack a ([x].count a) h (h.release x) := by
  constructor
  · exact List.count_append
  · show (h.live.erase x).count a = _
    rw [List.count_erase, List.count_singleton]

end Heap.GivenBack

/-- A block that is watched: its address, where the heap is in a state, and what holds of all the
states in question. -/
structure Watch (σ : Type) where
  address : Nat
  heap : σ → Heap
  inv : σ → Prop

namespace Watch

variable {W : Watch σ} {k k' : Nat}

variable (W) in
/-- The data of a buffer is not the block. -/
def Spares (b : Buffer) : Prop := b.address? ≠ some W.address

variable (W) in
/-- The buffer that was asked for, if there is one, is not the block. -/
def SparesAll (r : Except ε Buffer) : Prop := ∀ b, r = .ok b → W.Spares b

variable (W) in
/-- A computation gives the block back so often, and ends like this. -/
def Gives (k : Nat) (m : StateM σ α) (P : α → Prop) : Prop :=
  ∀ s, W.inv s →
    W.inv (m s).2 ∧ (W.heap s).GivenBack W.address k (W.heap (m s).2) ∧ P (m s).1

section Rules

variable {P : α → Prop} {Q : β → Prop}

theorem gives_pure {a : α} (h : P a) : W.Gives 0 (pure a) P :=
  fun s hs => ⟨hs, .refl W.address (W.heap s), h⟩

theorem Gives.mono {R : α → Prop} {m : StateM σ α} (hm : W.Gives k m R)
    (h : ∀ a, R a → P a) : W.Gives k m P := by
  intro s hs
  obtain ⟨hs', given, hpost⟩ := hm s hs
  exact ⟨hs', given, h _ hpost⟩

theorem Gives.bind_add {m : StateM σ α} {f : α → StateM σ β} (hm : W.Gives k m P)
    (hf : ∀ a, P a → W.Gives k' (f a) Q) : W.Gives (k + k') (m >>= f) Q := by
  intro s hs
  obtain ⟨hs₁, given, hpost⟩ := hm s hs
  obtain ⟨hs₂, given', hpost'⟩ := hf _ hpost _ hs₁
  exact ⟨hs₂, given.trans given', hpost'⟩

theorem Gives.bind {m : StateM σ α} {f : α → StateM σ β} (hm : W.Gives k m P)
    (hf : ∀ a, P a → W.Gives 0 (f a) Q) : W.Gives k (m >>= f) Q := hm.bind_add hf

/-- What cannot fail is followed likewise by what may. -/
theorem Gives.liftM_bind_add {m : StateM σ α} {f : α → EStateM ε σ β} {Q : Except ε β → Prop}
    (hm : W.Gives k m P) (hf : ∀ a, P a → W.Gives k' (attempt (f a)) Q) :
    W.Gives (k + k') (attempt (liftM m >>= f)) Q := Gives.bind_add hm hf

theorem Gives.liftM_bind {m : StateM σ α} {f : α → EStateM ε σ β} {Q : Except ε β → Prop}
    (hm : W.Gives k m P) (hf : ∀ a, P a → W.Gives 0 (attempt (f a)) Q) :
    W.Gives k (attempt (liftM m >>= f)) Q := Gives.bind hm hf

/-- What may fail is followed by something that gives nothing back, since it may not come to that. -/
theorem Gives.attempt_bind {m : EStateM ε σ α} {f : α → EStateM ε σ β}
    {P : Except ε α → Prop} {Q : Except ε β → Prop} (hm : W.Gives k (attempt m) P)
    (hok : ∀ a, P (.ok a) → W.Gives 0 (attempt (f a)) Q)
    (herror : ∀ e, P (.error e) → Q (.error e)) :
    W.Gives k (attempt (m >>= f)) Q := by
  intro s hs
  obtain ⟨hs₁, given, hpost⟩ := hm s hs
  cases h : m s with
  | ok a s₁ =>
    rw [attempt_ok h] at hs₁ given hpost
    obtain ⟨hs₂, given', hpost'⟩ := hok a hpost s₁ hs₁
    rw [attempt_bind_of_ok h]
    exact ⟨hs₂, given.trans given', hpost'⟩
  | error e s₁ =>
    rw [attempt_error h] at hs₁ given hpost
    rw [attempt_error (bind_of_error h f)]
    exact ⟨hs₁, given, herror e hpost⟩

/-- An error in other words is the same to the block. -/
theorem Gives.reworded {ε' : Type} {m : EStateM ε σ α} {m' : EStateM ε' σ α} {f : ε → ε'}
    (hm : W.Gives k (attempt m) fun r => ∀ x, r = .ok x → P x)
    (h : ∀ s, attempt m' s = ((attempt m s).1.mapError f, (attempt m s).2)) :
    W.Gives k (attempt m') fun r => ∀ x, r = .ok x → P x := by
  intro s hs
  obtain ⟨hs', given, hpost⟩ := hm s hs
  rw [h s]
  refine ⟨hs', given, ?_⟩
  intro x hx
  cases hr : (attempt m s).1 with
  | ok y =>
    rw [hr] at hx
    cases hx
    exact hpost x hr
  | error e =>
    rw [hr] at hx
    cases hx

theorem gives_ofExcept {x : Except ε α} {P : Except ε α → Prop} (h : P x) :
    W.Gives 0 (attempt (ofExcept x : EStateM ε σ α)) P := by
  intro s hs
  rw [attempt_ofExcept]
  exact ⟨hs, .refl W.address (W.heap s), h⟩

theorem gives_ofExcept_bind {x : Except ε α} {f : α → EStateM ε σ β} {Q : Except ε β → Prop}
    (hok : ∀ a, W.Gives 0 (attempt (f a)) Q) (herror : ∀ e, Q (.error e)) :
    W.Gives 0 (attempt (ofExcept x >>= f)) Q := by
  cases x with
  | ok a => exact hok a
  | error e => exact gives_ofExcept (x := .error e) (herror e)

/-- A check comes before what gives something back only if it is passed. -/
theorem Gives.check_bind {x : Except ε α} {a : α} {f : α → EStateM ε σ β}
    {Q : Except ε β → Prop} (passed : x = .ok a) (hf : W.Gives k (attempt (f a)) Q) :
    W.Gives k (attempt (ofExcept x >>= f)) Q := by
  rw [passed]
  exact hf

end Rules

/-! ### Allocators -/

variable (W) in
/-- An allocator has nothing to do with the block, unless the block is given back to it. -/
structure Sparing (A : Allocator σ) : Prop where
  alloc : ∀ n, W.Gives 0 (attempt (A.alloc n)) W.SparesAll
  free : ∀ b, W.Spares b → W.Gives 0 (attempt (A.free b)) fun _ => True

namespace Sparing

variable {A : Allocator σ}

/-- Lowering spares the block, also where it fails. -/
theorem lower (spare : W.Sparing A) (v : Value) : W.Gives 0 (attempt (v.lower A)) W.SparesAll := by
  rw [v.lower_eq]
  refine (spare.alloc v.outerLength).attempt_bind ?_ (fun _ _ => nofun)
  intro b hb
  have hb : W.Spares b := hb b rfl
  refine gives_ofExcept_bind (fun _ => ?_) (fun _ => nofun)
  rcases v.writeOuter.runOn (.fresh b.contents) with ⟨e | ⟨⟩, r⟩
  · refine (spare.free b hb).attempt_bind (fun _ _ => ?_) (fun _ _ => nofun)
    exact gives_ofExcept (x := .error e) nofun
  · refine gives_ofExcept (x := .ok (b.overwrite r.written)) ?_
    rintro _ ⟨⟩
    obtain ⟨_ | blk, n⟩ := b
    · exact hb
    · exact hb

/-- Lifting from another buffer spares the block. -/
theorem lift (spare : W.Sparing A) (S : Schema) (t : WireType) {b : Buffer} (hb : W.Spares b) :
    W.Gives 0 (attempt (S.lift A t b)) fun _ => True := by
  rw [S.lift_eq]
  refine gives_ofExcept_bind (fun _ => ?_) (fun _ => trivial)
  exact (spare.free b hb).liftM_bind fun _ _ => gives_ofExcept trivial

/-- Answering a callback spares the block. -/
theorem answer (spare : W.Sparing A) {zero : α} (o : Host.CallbackOutcome α) {s : Status}
    (hs : W.Spares s.payload) :
    W.Gives 0 (Host.answer A zero o s) fun r => W.Spares r.2.payload := by
  have hnone : W.Spares .unallocated := nofun
  have hpanic : ∀ m, W.Gives 0 (Host.panicStatus A m) fun s => W.Spares s.payload := by
    intro m
    refine (spare.lower (.text m)).bind ?_
    intro r hr
    cases r with
    | ok b => exact gives_pure (hr b rfl)
    | error e => exact gives_pure hnone
  cases o with
  | returned a => exact gives_pure hs
  | failed e =>
    refine (spare.lower e).bind ?_
    intro r hr
    cases r with
    | ok b => exact gives_pure (hr b rfl)
    | error w => exact (hpanic _).bind fun _ h => gives_pure h
  | panicked text => exact (hpanic _).bind fun _ h => gives_pure h

end Sparing

end Watch

/-! ### The native side -/

/-- A block that a heap knows of, since only new blocks lie behind the next address. -/
def Heap.watch (a : Nat) : Watch Heap where
  address := a
  heap h := h
  inv h := a < h.next

namespace Native

variable {a k : Nat}

/-- A buffer that can be looked at is taken back: of its data, once. -/
theorem free_gives {b : Buffer} (layout : b.check = .ok ()) :
    (Heap.watch a).Gives (b.address?.toList.count a) (attempt (allocator.free b))
      fun _ => True := by
  intro h hs
  rw [attempt_ok (free_eq layout h)]
  refine ⟨?_, ?_, trivial⟩
  · show a < (b.address?.elim h.noteFree h.noteFree.release).next
    cases b.address? <;> exact hs
  · show Heap.GivenBack a _ h (b.address?.elim h.noteFree h.noteFree.release)
    cases b.address? with
    | none => exact ⟨rfl, rfl⟩
    | some x =>
      have given := Heap.GivenBack.release a x h.noteFree
      exact ⟨given.released, given.live⟩

theorem allocator_sparing (a : Nat) : (Heap.watch a).Sparing allocator where
  alloc n := by
    intro h hs
    have old : a < h.next := hs
    by_cases short : n ≤ maxLength
    · have given := Heap.GivenBack.place (h := h.noteRequest n) old [] n
      rw [attempt_ok (alloc_eq short h)]
      refine ⟨Nat.lt_succ_of_lt old, ⟨given.released, given.live⟩, ?_⟩
      rintro _ ⟨⟩ haddress
      have heq : h.next = a := Option.some.inj haddress
      omega
    · rw [attempt_error (alloc_tooLong (Nat.not_le.1 short) h)]
      exact ⟨old, ⟨rfl, rfl⟩, nofun⟩
  free b hb := by
    cases layout : b.check with
    | ok u =>
      have hzero : b.address?.toList.count a = 0 := by
        have hne : b.address? ≠ some a := hb
        cases hx : b.address? with
        | none => rfl
        | some x =>
          rw [hx] at hne
          exact List.count_eq_zero.2 (by simpa using Ne.symm (fun h => hne (congrArg some h)))
      rw [← hzero]
      exact free_gives layout
    | error e =>
      intro h hs
      have hfree : allocator.free b h = .error e h.noteFree := by simp only [allocator, layout]
      rw [attempt_error hfree]
      exact ⟨hs, ⟨rfl, rfl⟩, trivial⟩

/-- **An argument's buffer is given back once**, whether or not it makes sense. -/
theorem liftArgument_gives (S : Schema) (name : String) (t : WireType) {b : Buffer}
    (layout : b.check = .ok ()) :
    (Heap.watch a).Gives (b.address?.toList.count a) (attempt (liftArgument S name t b))
      fun _ => True := by
  have hlift : (Heap.watch a).Gives (b.address?.toList.count a) (attempt (S.lift allocator t b))
      fun _ => True := by
    intro h hs
    obtain ⟨hs', given, -⟩ := free_gives layout h hs
    rw [S.lift_state allocator t layout h]
    exact ⟨hs', given, trivial⟩
  refine Watch.Gives.mono (Watch.Gives.reworded (P := fun _ => True)
    (f := fun e => .internal s!"Failed to lift argument '{name}': {e.message}")
    (hlift.mono fun _ _ _ _ => trivial) ?_) fun _ _ => trivial
  intro h
  unfold attempt liftArgument
  cases S.lift allocator t b h <;> rfl

/-- What goes wrong with the wire is a fault, and the same to the block. -/
theorem ofWire_gives {α : Type} {m : EStateM WireError Heap α} {P : α → Prop}
    (hm : (Heap.watch a).Gives k (attempt m) fun r => ∀ x, r = .ok x → P x) :
    (Heap.watch a).Gives k (attempt (ofWire m)) fun r => ∀ x, r = .ok x → P x := by
  refine hm.reworded (f := fun e => .internal e.message) ?_
  intro h
  unfold attempt ofWire
  cases m h <;> rfl

theorem lowerReturn_spares (v : Value) :
    (Heap.watch a).Gives 0 (attempt (lowerReturn v)) (Heap.watch a).SparesAll :=
  ofWire_gives ((allocator_sparing a).lower v)

/-- A message has a block of its own. -/
theorem messageBuffer_spares (text : Option String) :
    (Heap.watch a).Gives 0 (messageBuffer text) (Heap.watch a).Spares := by
  have hnone : (Heap.watch a).Spares .unallocated := nofun
  cases text with
  | none => exact Watch.gives_pure hnone
  | some m =>
    refine ((allocator_sparing a).lower (.text m)).bind ?_
    intro r hr
    cases r with
    | ok b => exact Watch.gives_pure (hr b rfl)
    | error e => exact Watch.gives_pure hnone

/-- What a body has given back stays so when its outcome is reported. -/
theorem run_gives {α : Type} (zero : α) {body : Body α} {P : Except Fault α → Prop}
    (hb : (Heap.watch a).Gives k (attempt body) P) (s : Status) :
    (Heap.watch a).Gives k (run zero body s) fun out =>
      out.1 = zero ∨ P (.ok out.1) := by
  refine hb.bind ?_
  intro r hr
  cases r with
  | ok x => exact Watch.gives_pure (.inr hr)
  | error f =>
    cases f with
    | domain b => exact Watch.gives_pure (.inl rfl)
    | internal m => exact (messageBuffer_spares (some m)).bind fun _ _ => Watch.gives_pure (.inl rfl)
    | panic text => exact (messageBuffer_spares text).bind fun _ _ => Watch.gives_pure (.inl rfl)

/-- Reading what a callback left gives the buffer of the status back, not another one. -/
theorem checkForeign_spares (S : Schema) (errorType : WireType) {s : Status}
    (hs : (Heap.watch a).Spares s.payload) :
    (Heap.watch a).Gives 0 (checkForeign S errorType s) fun _ => True := by
  have hread : ∀ t, (Heap.watch a).Gives 0 (attempt (S.lift allocator t s.payload))
      fun _ => True := fun t => (allocator_sparing a).lift S t hs
  unfold checkForeign
  cases s.kind? with
  | none => exact Watch.gives_pure trivial
  | some kind =>
    cases kind with
    | success => exact Watch.gives_pure trivial
    | error =>
      refine (hread errorType).bind ?_
      intro r _
      cases r <;> exact Watch.gives_pure trivial
    | panic =>
      refine Watch.Gives.bind (P := fun _ => True) ?_ (fun _ _ => Watch.gives_pure trivial)
      unfold foreignPanic
      split
      · exact Watch.gives_pure trivial
      · refine (hread .text).bind ?_
        intro r _
        cases r <;> exact Watch.gives_pure trivial

end Native

namespace Host

/-- A call of a buffer entry point gives back what the entry point does. -/
theorem given_gives {σ α : Type} {W : Watch σ} {call : StateM σ (α × Status)} {k : Nat}
    {P : α → Prop} (hc : W.Gives k call fun out => P out.1) :
    W.Gives k (attempt (BufferEntries.given call)) fun r => ∀ x, r = .ok x → P x := by
  unfold BufferEntries.given
  refine hc.liftM_bind ?_
  intro out hout
  refine Watch.gives_ofExcept_bind (fun _ => Watch.gives_pure ?_) (fun _ => nofun)
  rintro _ ⟨⟩
  exact hout

theorem refusal_gives {σ α : Type} {W : Watch σ} {m : EStateM InternalError σ α} {k : Nat}
    {P : α → Prop} (hm : W.Gives k (attempt m) fun r => ∀ x, r = .ok x → P x) :
    W.Gives k (attempt (BufferEntries.refusal m)) fun r => ∀ x, r = .ok x → P x := by
  refine hm.reworded (f := fun e => .allocation e.message) ?_
  intro s
  unfold attempt BufferEntries.refusal
  cases m s <;> rfl

/-- Through the entry points the host cannot get at the block either. -/
theorem nativeEntries_sparing (a : Nat) : (Heap.watch a).Sparing nativeEntries.allocator where
  alloc n := by
    have hnone : (Heap.watch a).Spares .unallocated := nofun
    have hrun : (Heap.watch a).Gives 0 (Native.allocBuffer n {})
        fun out => (Heap.watch a).Spares out.1 := by
      refine (Native.run_gives _ (Native.ofWire_gives ((Native.allocator_sparing a).alloc n)) {}).mono ?_
      rintro out (hzero | hout)
      · rw [hzero]
        exact hnone
      · exact hout _ rfl
    refine refusal_gives ((given_gives hrun).attempt_bind ?_ fun _ _ => nofun)
    intro b hb
    have hb : (Heap.watch a).Spares b := hb b rfl
    split
    · exact Watch.gives_ofExcept (x := .error _) nofun
    · refine Watch.gives_pure ?_
      rintro _ ⟨⟩
      exact hb
  free b hb := by
    have hfree := ((Native.allocator_sparing a).free b hb).mono
      (P := fun r => ∀ x : Unit, r = .ok x → True) fun _ _ _ _ => trivial
    have hrun : (Heap.watch a).Gives 0 (Native.freeBuffer b {}) fun _ => True :=
      (Native.run_gives _ (Native.ofWire_gives hfree) {}).mono fun _ _ => trivial
    exact (refusal_gives (given_gives (P := fun _ => True) hrun)).mono fun _ _ => trivial

end Host

end CallBoundary
