import CallBoundary.Proofs.Buffer.Ownership

/-!
# Looking at buffers

The bytes of a buffer are there to be looked at as long as its data is live, and its data can be
given back as long as it is live.  Both happen through a `Memory`: lowering looks at the buffer that
it writes to, and lifting at the one that it reads from.  A memory that notes when it is used
(`watched`) tells whether the data was live then.

An allocator is `Reliable` if it serves its requests and takes back what is live.  With such an
allocator lowering and lifting are careful: all that they look at and all that they give back is
live then (`Value.lower_careful`, `Schema.lift_careful`).
-/

namespace CallBoundary

variable {σ α β ε : Type}

/-! ### Reliable allocators -/

namespace Buffer

/-- The data of a buffer, if it has any, is live. -/
def LiveIn (b : Buffer) (live : List Nat) : Prop := ∀ a, b.address? = some a → a ∈ live

/-- The live blocks once the data of a buffer is taken back. -/
def takenFrom (b : Buffer) (live : List Nat) : List Nat := b.address?.elim live live.erase

theorem liveIn_handed (b : Buffer) (live : List Nat) : b.LiveIn (b.address?.toList ++ live) := by
  intro a ha
  rw [ha]
  exact List.mem_cons_self ..

/-- What is given back was there once more. -/
theorem count_takenFrom {b : Buffer} {live : List Nat} (here : b.LiveIn live) (a : Nat) :
    live.count a = (b.takenFrom live).count a + b.address?.toList.count a := by
  unfold takenFrom
  cases hb : b.address? with
  | none => rfl
  | some x =>
    have hperm : live.Perm (x :: live.erase x) := List.perm_cons_erase (here x hb)
    rw [hperm.count_eq a, List.count_cons]
    simp [List.count_singleton]

theorem takenFrom_handed (b : Buffer) (live : List Nat) :
    b.takenFrom (b.address?.toList ++ live) = live := by
  unfold takenFrom
  cases b.address? with
  | none => rfl
  | some a => exact List.erase_cons_head ..

end Buffer

/-- An allocator that does not fail: as long as all is in order, it hands out room of its own for
every size that it serves, and takes back whatever is live. -/
structure Allocator.Reliable (A : Allocator σ) where
  /-- The blocks handed out and not taken back. -/
  live : σ → List Nat
  inOrder : σ → Prop
  serves : Nat → Prop
  alloc : ∀ n s, inOrder s → serves n → ∃ b s', A.alloc n s = .ok b s' ∧ inOrder s' ∧
    b.check = .ok () ∧ n ≤ b.length ∧ (∀ a, b.address? = some a → a ∉ live s) ∧
    live s' = b.address?.toList ++ live s
  free : ∀ b s, inOrder s → b.check = .ok () → b.LiveIn (live s) → ∃ s', A.free b s = .ok () s' ∧
    inOrder s' ∧ live s' = b.takenFrom (live s)

/-- An allocator on a heap does not fail if it hands out new blocks and takes back live ones. -/
def Heap.reliable (A : Allocator Heap) (serves : Nat → Prop)
    (handsOut : ∀ n h, serves n →
      A.alloc n h = .ok (.ofBlock ⟨h.next, [], n⟩) ((h.noteRequest n).place [] n).2)
    (takesBack : ∀ b h, b.check = .ok () → b.LiveIn h.live →
      A.free b h = .ok () (b.address?.elim h.noteFree h.noteFree.release)) : A.Reliable where
  live := Heap.live
  inOrder h := ∀ a ∈ h.live, a < h.next
  serves := serves
  alloc n h ordered served := by
    refine ⟨_, _, handsOut n h served, ?_, if_pos (Nat.le_refl _), Nat.le_add_left .., ?_, rfl⟩
    · intro a ha
      rcases List.mem_cons.1 ha with rfl | ha
      · exact Nat.lt_succ_self _
      · exact Nat.lt_succ_of_lt (ordered a ha)
    · rintro _ ⟨⟩ hlive
      exact Nat.lt_irrefl _ (ordered _ hlive)
  free b h ordered layout here := by
    refine ⟨_, takesBack b h layout here, ?_, ?_⟩
    · cases b.address? with
      | none => exact ordered
      | some x => exact fun a ha => ordered a (List.mem_of_mem_erase ha)
    · unfold Buffer.takenFrom
      cases b.address? <;> rfl

theorem Plan.free_live {b : Buffer} {h : Heap} (layout : b.check = .ok ())
    (here : b.LiveIn h.live) : ({} : Plan).allocator.free b h =
      .ok () (b.address?.elim h.noteFree h.noteFree.release) := by
  cases ha : b.address? with
  | none =>
    obtain rfl := Buffer.eq_unallocated layout ha
    rfl
  | some a =>
    have hu : b.isUnallocated = false := Buffer.not_isUnallocated (by simp [ha])
    have hlive : a ∈ h.noteFree.live := here a ha
    simp only [allocator, hu, layout, ha, Bool.false_eq_true, if_false]
    exact if_pos hlive

/-- Left alone, an allocator that follows a plan does not fail at all. -/
def Plan.reliable : ({} : Plan).allocator.Reliable :=
  Heap.reliable _ (fun _ => True) (fun _ _ _ => rfl) (fun _ _ => free_live)

/-! ### Watching -/

/-- What is asked of an allocator or done to a buffer, and the blocks that are live then. -/
inductive Access where
  | asked (answer : Except WireError Buffer) (live : List Nat)
  | looked (b : Buffer) (live : List Nat)
  | freed (b : Buffer) (live : List Nat)

namespace Access

/-- What is handed out was not live, and what is looked at or given back is. -/
def Proper : Access → Prop
  | asked answer live => ∀ b a, answer = .ok b → b.address? = some a → a ∉ live
  | looked b live => b.LiveIn live
  | freed b live => b.LiveIn live

/-- The block that is handed out, if there is one. -/
def handedOut : Access → List Nat
  | asked (.ok b) _ => b.address?.toList
  | _ => []

/-- The block that is given back, if there is one. -/
def givenBack : Access → List Nat
  | freed b _ => b.address?.toList
  | _ => []

end Access

namespace Allocator.Reliable

variable {A : Allocator σ} (R : A.Reliable)

/-- The memory of an allocator, where all that is asked of it and done to its buffers is noted,
oldest first. -/
def watched : Memory (σ × List Access) where
  alloc n := fun t => noting (fun answer => .asked answer (R.live t.1)) (A.alloc n) t
  free b := fun t => noting (fun _ => .freed b (R.live t.1)) (A.free b) t
  look b := fun t => (b.contents, t.1, t.2 ++ [.looked b (R.live t.1)])

/-- With these blocks live before and those after, the accounts of some accesses are in order: each
of them is proper, and a block is live afterwards as often as it was before and has been handed out,
less the times it was given back. -/
structure Accounted (live : List Nat) (accesses : List Access) (live' : List Nat) : Prop where
  proper : ∀ x ∈ accesses, x.Proper
  balance : ∀ a, live.count a + (accesses.flatMap Access.handedOut).count a =
    live'.count a + (accesses.flatMap Access.givenBack).count a

theorem Accounted.nil (live : List Nat) : Accounted live [] live := ⟨nofun, fun _ => rfl⟩

theorem Accounted.append {live live₁ live₂ : List Nat} {xs ys : List Access}
    (hx : Accounted live xs live₁) (hy : Accounted live₁ ys live₂) :
    Accounted live (xs ++ ys) live₂ := by
  constructor
  · intro x h
    exact (List.mem_append.1 h).elim (hx.proper x) (hy.proper x)
  · intro a
    have h₁ := hx.balance a
    have h₂ := hy.balance a
    simp only [List.flatMap_append, List.count_append]
    omega

/-- With these live blocks, a computation that is watched ends like the one that is not, and its
accounts are in order; how it ends and what is live then are related so. -/
def Careful (live : List Nat) (watched : StateM (σ × List Access) α) (plain : StateM σ α)
    (post : α → List Nat → Prop) : Prop :=
  ∀ s log, R.inOrder s → R.live s = live → ∃ more,
    watched (s, log) = ((plain s).1, (plain s).2, log ++ more) ∧
      Accounted live more (R.live (plain s).2) ∧ R.inOrder (plain s).2 ∧
      post (plain s).1 (R.live (plain s).2)

section Careful

variable {R} {live : List Nat}

theorem careful_pure {post : α → List Nat → Prop} {a : α} (h : post a live) :
    R.Careful live (pure a) (pure a) post := by
  rintro s log ordered rfl
  refine ⟨[], ?_, .nil _, ordered, h⟩
  rw [List.append_nil]
  rfl

/-- What follows a careful computation goes on with what it leaves live. -/
theorem Careful.bind {m' : StateM (σ × List Access) α} {m : StateM σ α}
    {f' : α → StateM (σ × List Access) β} {f : α → StateM σ β} {post : α → List Nat → Prop}
    {post' : β → List Nat → Prop} (hm : R.Careful live m' m post)
    (hf : ∀ a live', post a live' → R.Careful live' (f' a) (f a) post') :
    R.Careful live (m' >>= f') (m >>= f) post' := by
  intro s log ordered hlive
  obtain ⟨more, hrun, accounts, ordered', hpost⟩ := hm s log ordered hlive
  obtain ⟨more', hrun', accounts', rest⟩ := hf _ _ hpost (m s).2 (log ++ more) ordered' rfl
  refine ⟨more ++ more', ?_, accounts.append accounts', rest⟩
  rw [stateM_bind, hrun, stateM_bind, hrun', List.append_assoc]

/-- What a careful computation ends with may be put in other words. -/
theorem Careful.map {m' : StateM (σ × List Access) α} {m : StateM σ α} {g : α → β}
    {post : α → List Nat → Prop} {post' : β → List Nat → Prop} (hm : R.Careful live m' m post)
    (hg : ∀ a live', post a live' → post' (g a) live') :
    R.Careful live (m' >>= fun a => pure (g a)) (m >>= fun a => pure (g a)) post' :=
  hm.bind fun a live' h => careful_pure (hg a live' h)

/-- What follows one that may fail goes on likewise, unless it has failed. -/
theorem Careful.attempt_bind {m' : EStateM ε (σ × List Access) α} {m : EStateM ε σ α}
    {f' : α → EStateM ε (σ × List Access) β} {f : α → EStateM ε σ β}
    {post : Except ε α → List Nat → Prop} {post' : Except ε β → List Nat → Prop}
    (hm : R.Careful live (attempt m') (attempt m) post)
    (hok : ∀ a live', post (.ok a) live' → R.Careful live' (attempt (f' a)) (attempt (f a)) post')
    (herror : ∀ e live', post (.error e) live' → post' (.error e) live') :
    R.Careful live (attempt (m' >>= f')) (attempt (m >>= f)) post' := by
  intro s log ordered hlive
  obtain ⟨more, hrun, accounts, ordered', hpost⟩ := hm s log ordered hlive
  cases h : m s with
  | ok a s₁ =>
    rw [attempt_ok h] at hrun accounts ordered' hpost
    obtain ⟨more', hrun', accounts', rest⟩ := hok a _ hpost s₁ (log ++ more) ordered' rfl
    rw [attempt_bind_of_ok h]
    refine ⟨more ++ more', ?_, accounts.append accounts', rest⟩
    rw [attempt_bind_of_ok (of_attempt_ok hrun), hrun', List.append_assoc]
  | error e s₁ =>
    rw [attempt_error h] at hrun accounts ordered' hpost
    rw [attempt_error (bind_of_error h f)]
    refine ⟨more, ?_, accounts, ordered', herror e _ hpost⟩
    rw [attempt_error (bind_of_error (of_attempt_error hrun) f')]

/-- Live data is looked at. -/
theorem careful_look {b : Buffer} (here : b.LiveIn live) :
    R.Careful live (R.watched.look b) ((Memory.plain A).look b)
      fun bs live' => bs = b.contents ∧ live' = live := by
  rintro s log ordered rfl
  refine ⟨[.looked b (R.live s)], rfl, ⟨?_, fun _ => rfl⟩, ordered, rfl, rfl⟩
  intro x hx
  rw [List.mem_singleton.1 hx]
  exact here

/-- Live data is given back. -/
theorem careful_free {b : Buffer} (layout : b.check = .ok ()) (here : b.LiveIn live) :
    R.Careful live (attempt (R.watched.free b)) (attempt (A.free b))
      fun r live' => r = .ok () ∧ live' = b.takenFrom live := by
  rintro s log ordered rfl
  obtain ⟨s', hfree, ordered', hlive'⟩ := R.free b s ordered layout here
  rw [attempt_ok hfree]
  refine ⟨[.freed b (R.live s)], ?_, ⟨?_, ?_⟩, ordered', rfl, hlive'⟩
  · simp only [attempt, watched, noting, hfree]
  · intro x hx
    rw [List.mem_singleton.1 hx]
    exact here
  · intro a
    rw [hlive', List.flatMap_singleton, List.flatMap_singleton]
    exact b.count_takenFrom here a

/-- A buffer of a size that is served. -/
theorem careful_alloc {n : Nat} (served : R.serves n) :
    R.Careful live (attempt (R.watched.alloc n)) (attempt (A.alloc n)) fun r live' =>
      ∃ b, r = .ok b ∧ b.check = .ok () ∧ n ≤ b.length ∧
        (∀ a, b.address? = some a → a ∉ live) ∧ live' = b.address?.toList ++ live := by
  rintro s log ordered rfl
  obtain ⟨b, s', halloc, ordered', layout, room, fresh, hlive'⟩ := R.alloc n s ordered served
  rw [attempt_ok halloc]
  refine ⟨[.asked (.ok b) (R.live s)], ?_, ⟨?_, ?_⟩, ordered', b, rfl, layout, room, fresh, hlive'⟩
  · simp only [attempt, watched, noting, halloc]
  · intro x hx
    rw [List.mem_singleton.1 hx]
    rintro _ a ⟨⟩ ha
    exact fresh a ha
  · intro a
    rw [hlive', List.flatMap_singleton, List.flatMap_singleton, List.count_append, Nat.add_comm]
    rfl

/-- A check that is passed is no step. -/
theorem Careful.check_bind {x : Except ε α} {a : α} {f' : α → EStateM ε (σ × List Access) β}
    {f : α → EStateM ε σ β} {post : Except ε β → List Nat → Prop} (passed : x = .ok a)
    (hf : R.Careful live (attempt (f' a)) (attempt (f a)) post) :
    R.Careful live (attempt (ofExcept x >>= f')) (attempt (ofExcept x >>= f)) post := by
  rw [passed]
  exact hf

/-- What is known to come out is no step. -/
theorem careful_ofExcept {x : Except ε α} {post : Except ε α → List Nat → Prop} (h : post x live) :
    R.Careful live (attempt (ofExcept x)) (attempt (ofExcept x)) post := by
  rintro s log ordered rfl
  rw [attempt_ofExcept, attempt_ofExcept]
  refine ⟨[], ?_, .nil _, ordered, h⟩
  rw [List.append_nil]

/-- What cannot fail is followed like what does not. -/
theorem Careful.liftM_bind {m' : StateM (σ × List Access) α} {m : StateM σ α}
    {f' : α → EStateM ε (σ × List Access) β} {f : α → EStateM ε σ β} {post : α → List Nat → Prop}
    {post' : Except ε β → List Nat → Prop} (hm : R.Careful live m' m post)
    (hf : ∀ a live', post a live' → R.Careful live' (attempt (f' a)) (attempt (f a)) post') :
    R.Careful live (attempt (liftM m' >>= f')) (attempt (liftM m >>= f)) post' :=
  Careful.bind hm hf

end Careful

end Allocator.Reliable

/-! ### Lowering and lifting -/

section Transfer

open Allocator.Reliable

variable {A : Allocator σ} {R : A.Reliable} {live : List Nat}

/-- What a request comes to when these blocks are live: a buffer, whose data was not live and is
now, or no buffer and nothing new. -/
inductive Granted (live : List Nat) : Except WireError Buffer → List Nat → Prop
  | handed {b : Buffer} (layout : b.check = .ok ()) (fresh : ∀ a, b.address? = some a → a ∉ live) :
    Granted live (.ok b) (b.address?.toList ++ live)
  | refused (e : WireError) : Granted live (.error e) live

/-- A buffer that is written to is still the one that was handed out. -/
theorem Granted.overwritten {b : Buffer} {bs : Bytes} (layout : b.check = .ok ())
    (fresh : ∀ a, b.address? = some a → a ∉ live) (room : bs.length ≤ b.contents.length) :
    Granted live (.ok (b.overwrite bs)) (b.address?.toList ++ live) := by
  obtain ⟨layout', -, -, haddress⟩ := Buffer.overwrite_sound layout room
  rw [← haddress]
  exact .handed layout' (haddress ▸ fresh)

/-- **Lowering is careful.** -/
theorem Value.lower_careful (v : Value) (served : R.serves v.outerLength) :
    R.Careful live (attempt (v.lowerFrom R.watched)) (attempt (v.lower A)) (Granted live) := by
  unfold Value.lower Value.lowerFrom
  refine (careful_alloc served).attempt_bind ?_ (fun e live' h => by simp at h)
  rintro b _ ⟨_, ⟨⟩, layout, -, fresh, rfl⟩
  refine .check_bind layout ((careful_look (b.liveIn_handed live)).liftM_bind ?_)
  rintro _ _ ⟨rfl, rfl⟩
  cases hw : v.writeOuter (.fresh b.contents) with
  | ok u r =>
    obtain ⟨room, -⟩ := v.writes_encodeOuter _ r hw
    rw [Value.filled_of_ok hw, Value.filled_of_ok hw]
    exact careful_pure (.overwritten layout fresh room)
  | error e r =>
    rw [Value.filled_of_error hw, Value.filled_of_error hw]
    -- the buffer goes back, and only then is the error reported
    refine (careful_free layout (b.liveIn_handed live)).attempt_bind ?_
      (fun e live' h => by simp at h)
    rintro _ _ ⟨-, rfl⟩
    refine careful_pure ?_
    rw [b.takenFrom_handed live]
    exact .refused e

/-- **Lifting is careful**, and the buffer is given back, whatever comes of it. -/
theorem Schema.lift_careful (S : Schema) (t : WireType) {b : Buffer} (layout : b.check = .ok ())
    (here : b.LiveIn live) :
    R.Careful live (attempt (S.liftFrom R.watched t b)) (attempt (S.lift A t b))
      fun _ live' => live' = b.takenFrom live := by
  unfold Schema.lift Schema.liftFrom
  refine .check_bind layout ((careful_look here).liftM_bind ?_)
  rintro _ _ ⟨rfl, rfl⟩
  refine (careful_free layout here).liftM_bind ?_
  rintro _ _ ⟨rfl, rfl⟩
  exact careful_ofExcept rfl

end Transfer

end CallBoundary
