import Mathlib.Data.List.Perm.Basic
import CallBoundary.Proofs.Buffer.Memory
import CallBoundary.Proofs.Host.Custody
import CallBoundary.Sample.Types

/-!
# Keeping buffers

The host comes by buffers and parts with them in any order: it lowers values and asks for raw
buffers, and lifts from the buffers that it holds, drops them, hands them on, or finds them in a
status that reports a failure (`Deed`).  Whatever it does, the blocks that are live are at any time
those of the buffers it holds, and no block is looked at or given back that is not live: each is
given back once, and not looked at again (`live_are_held`).

This is so for every allocator that does not fail, such as the native side's own behind its entry
points (`nativeEntriesReliable`).
-/

namespace CallBoundary.Host

variable {σ : Type}

/-! ### What is done with buffers -/

/-- What there is to be done with buffers. -/
structure Handling (σ : Type) where
  lower : Value → EStateM WireError σ Buffer
  /-- A buffer of these bytes. -/
  raw : Bytes → EStateM WireError σ Buffer
  lift : WireType → OwnedBuffer → EStateM WireError σ Value
  drop : OwnedBuffer → StateM σ Unit
  checkStatus : WireType → Status → StateM σ (Except CallError Unit)
  checkInternalStatus : Status → StateM σ (Except InternalError Unit)

/-- Asks for a buffer of a memory and writes these bytes to it. -/
def rawFrom (M : Memory σ) (bs : Bytes) : EStateM WireError σ Buffer := do
  let b ← M.alloc bs.length
  let _ ← M.look b
  return b.overwrite bs

/-- The host's ways with buffers. -/
def handling (S : Schema) (A : Allocator σ) : Handling σ where
  lower v := v.lower A
  raw bs := rawFrom (.plain A) bs
  lift t o := o.lift S A t
  drop o := o.drop A
  checkStatus t s := Host.checkStatus S A t s
  checkInternalStatus s := Host.checkInternalStatus A s

/-- The host's ways with buffers in a memory. -/
def handlingFrom (S : Schema) (M : Memory σ) : Handling σ where
  lower v := v.lowerFrom M
  raw bs := rawFrom M bs
  lift t o := o.liftFrom S M t
  drop o := o.drop M.toAllocator
  checkStatus t s := checkStatusFrom S M t s
  checkInternalStatus s := checkInternalStatusFrom M s

theorem handlingFrom_plain (S : Schema) (A : Allocator σ) :
    handlingFrom S (.plain A) = handling S A := rfl

/-- A failure that a status reports. -/
inductive Failure where
  | error | panic
deriving DecidableEq, Repr

/-- The status that reports a failure with this buffer. -/
def Failure.status : Failure → Buffer → Status
  | error => .ofError
  | panic => .ofPanic

/-- What the host does with a buffer that it holds: it wraps it and lifts from it, drops it or hands
it on, or it reads a status that came with it, be it of a call that declares errors or of one that
does not. -/
inductive Use where
  | lift (t : WireType)
  | drop
  | handOn
  | status (f : Failure) (errorType : WireType)
  | plainStatus (f : Failure)
deriving Repr

/-- A buffer is used, and what is still held of it. -/
def Use.apply (H : Handling σ) (b : Buffer) : Use → StateM σ (Option Buffer)
  | lift t => do
    let _ ← attempt (H.lift t (.ofBuffer b))
    return none
  | drop => do
    H.drop (.ofBuffer b)
    return none
  | handOn => return some (OwnedBuffer.ofBuffer b).intoBuffer
  | status f errorType => do
    let _ ← H.checkStatus errorType (f.status b)
    return none
  | plainStatus f => do
    let _ ← H.checkInternalStatus (f.status b)
    return none

/-- What the host does next. -/
inductive Deed where
  | lower (v : Value)
  | raw (bs : Bytes)
  /-- Uses the buffer that it holds at a place, if there is one. -/
  | use (i : Nat) (u : Use)
deriving Repr

namespace Deed

/-- The size of the buffer that is asked for, if one is. -/
def request? : Deed → Option Nat
  | lower v => some v.outerLength
  | raw bs => some bs.length
  | use _ _ => none

/-- What the host holds once it is done. -/
def step (H : Handling σ) (held : List Buffer) : Deed → StateM σ (List Buffer)
  | lower v => do return (← attempt (H.lower v)).toOption.toList ++ held
  | raw bs => do return (← attempt (H.raw bs)).toOption.toList ++ held
  | use i u =>
    match held[i]? with
    | none => return held
    | some b => do return (← u.apply H b).toList ++ held.eraseIdx i

/-- What the host holds after some deeds. -/
def run (H : Handling σ) : List Deed → List Buffer → StateM σ (List Buffer)
  | [], held => return held
  | d :: ds, held => do run H ds (← d.step H held)

section Step

variable {H : Handling σ} {held : List Buffer} {i : Nat} {u : Use}

theorem step_use_none (absent : held[i]? = none) :
    (use i u).step H held = (return held : StateM σ _) := by
  simp only [step, absent]

theorem step_use_some {b : Buffer} (present : held[i]? = some b) :
    (use i u).step H held = do return (← u.apply H b).toList ++ held.eraseIdx i := by
  simp only [step, present]

end Step

end Deed

/-! ### Blocks and holdings -/

/-- The live blocks are those of the buffers held, each of one buffer, and all layouts are sound. -/
structure Holds (live : List Nat) (held : List Buffer) : Prop where
  layout : ∀ b ∈ held, b.check = .ok ()
  blocks : live.Perm (held.flatMap fun b => b.address?.toList)
  distinct : live.Nodup

namespace Holds

variable {live live' : List Nat} {held held' : List Buffer} {b : Buffer}

theorem perm (h : Holds live held) (hp : held.Perm held') : Holds live held' where
  layout b hb := h.layout b (hp.mem_iff.2 hb)
  blocks := h.blocks.trans (hp.flatMap_right _)
  distinct := h.distinct

/-- The data of a buffer that is held is live. -/
theorem liveIn (h : Holds live held) (hb : b ∈ held) : b.LiveIn live := by
  intro a ha
  rw [h.blocks.mem_iff, List.mem_flatMap]
  exact ⟨b, hb, by simp [ha]⟩

/-- What is taken back is held no longer. -/
theorem taken (h : Holds live (b :: held)) : Holds (b.takenFrom live) held := by
  have hperm : (b.takenFrom live).Perm (held.flatMap fun b => b.address?.toList) := by
    have hblocks := h.blocks
    rw [List.flatMap_cons] at hblocks
    unfold Buffer.takenFrom
    cases ha : b.address? with
    | none =>
      rw [ha] at hblocks
      exact hblocks
    | some a =>
      rw [ha] at hblocks
      have herase := hblocks.erase a
      rwa [Option.toList_some, List.singleton_append, List.erase_cons_head] at herase
  refine ⟨fun c hc => h.layout c (List.mem_cons_of_mem _ hc), hperm, ?_⟩
  unfold Buffer.takenFrom
  cases b.address? with
  | none => exact h.distinct
  | some a => exact h.distinct.erase a

/-- What is granted is held. -/
theorem granted {r : Except WireError Buffer} (h : Holds live held) (g : Granted live r live') :
    Holds live' (r.toOption.toList ++ held) := by
  cases g with
  | refused e => exact h
  | @handed b layout fresh =>
    refine ⟨?_, ?_, ?_⟩
    · intro c hc
      rcases List.mem_cons.1 hc with rfl | hc
      · exact layout
      · exact h.layout c hc
    · show (b.address?.toList ++ live).Perm ((b :: held).flatMap fun b => b.address?.toList)
      rw [List.flatMap_cons]
      exact h.blocks.append_left _
    · cases ha : b.address? with
      | none => exact h.distinct
      | some a => exact List.nodup_cons.2 ⟨fresh a ha, h.distinct⟩

end Holds

/-! ### Care in each use -/

open Allocator.Reliable

section Careful

variable {A : Allocator σ} {R : A.Reliable} {live : List Nat} {b : Buffer}
  (layout : b.check = .ok ()) (here : b.LiveIn live)

include layout here

/-- What is dropped is given back. -/
theorem drop_careful : R.Careful live ((OwnedBuffer.ofBuffer b).drop R.watched.toAllocator)
    ((OwnedBuffer.ofBuffer b).drop A) fun _ live' => live' = b.takenFrom live := by
  unfold OwnedBuffer.drop OwnedBuffer.ofBuffer
  cases hb : b.isUnallocated with
  | true =>
    -- there is nothing to give back
    simp only [hb, if_true]
    refine careful_pure ?_
    rw [Buffer.takenFrom, Buffer.address?_of_isUnallocated hb]
    rfl
  | false =>
    simp only [hb]
    exact (careful_free layout here).map fun _ _ h => h.2

/-- A message is looked at where it lies. -/
theorem panicErrorFrom_careful : R.Careful live (panicErrorFrom R.watched.look (.ofBuffer b))
    (panicErrorFrom (Memory.plain A).look (.ofBuffer b)) fun _ live' => live' = live := by
  unfold panicErrorFrom
  cases (OwnedBuffer.ofBuffer b).isEmpty with
  | true => exact careful_pure rfl
  | false =>
    simp only [OwnedBuffer.look_of_sound _ layout, Bool.false_eq_true, if_false]
    exact (careful_look here).map fun _ _ h => h.2

/-- **Reading a status is careful**, and its buffer is given back. -/
theorem checkStatus_careful (S : Schema) (errorType : WireType) (f : Failure) :
    R.Careful live (checkStatusFrom S R.watched errorType (f.status b))
      (checkStatus S A errorType (f.status b)) fun _ live' => live' = b.takenFrom live := by
  cases f with
  | error =>
    refine (S.lift_careful errorType layout here).bind ?_
    rintro r _ rfl
    cases r with
    | ok e => exact careful_pure rfl
    | error e => exact careful_pure rfl
  | panic =>
    refine (panicErrorFrom_careful layout here).bind ?_
    rintro _ _ rfl
    exact (drop_careful layout here).map fun _ _ h => h

/-- So it is where no errors are declared. -/
theorem checkInternalStatus_careful (f : Failure) :
    R.Careful live (checkInternalStatusFrom R.watched (f.status b))
      (checkInternalStatus A (f.status b)) fun _ live' => live' = b.takenFrom live := by
  cases f with
  | error => exact (drop_careful layout here).map fun _ _ h => h
  | panic =>
    refine (panicErrorFrom_careful layout here).bind ?_
    rintro _ _ rfl
    exact (drop_careful layout here).map fun _ _ h => h

/-- **Whatever is done with a buffer**, it is given back, or it is handed on and nothing happens. -/
theorem Use.apply_careful (S : Schema) (u : Use) :
    R.Careful live (u.apply (handlingFrom S R.watched) b) (u.apply (handling S A) b)
      fun kept live' => kept = none ∧ live' = b.takenFrom live ∨ kept = some b ∧ live' = live := by
  cases u with
  | lift t => exact (S.lift_careful t layout here).map fun _ _ h => .inl ⟨rfl, h⟩
  | drop => exact (drop_careful layout here).map fun _ _ h => .inl ⟨rfl, h⟩
  | handOn => exact careful_pure (.inr ⟨rfl, rfl⟩)
  | status f errorType =>
    exact (checkStatus_careful layout here S errorType f).map fun _ _ h => .inl ⟨rfl, h⟩
  | plainStatus f =>
    exact (checkInternalStatus_careful layout here f).map fun _ _ h => .inl ⟨rfl, h⟩

end Careful

section Running

variable (S : Schema) {A : Allocator σ} {R : A.Reliable} {live : List Nat} {held : List Buffer}

/-- A raw buffer is granted. -/
theorem raw_careful {bs : Bytes} (served : R.serves bs.length) :
    R.Careful live (attempt ((handlingFrom S R.watched).raw bs)) (attempt ((handling S A).raw bs))
      (Granted live) := by
  rw [← handlingFrom_plain]
  refine (careful_alloc served).attempt_bind ?_ (fun e live' h => by simp at h)
  rintro b _ ⟨_, ⟨⟩, layout, room, fresh, rfl⟩
  refine (careful_look (b.liveIn_handed live)).liftM_bind ?_
  rintro _ _ ⟨-, rfl⟩
  rw [← Buffer.length_contents layout] at room
  exact careful_pure (.overwritten layout fresh room)

/-- **The live blocks stay those that are held.** -/
theorem Deed.step_careful (d : Deed) (served : ∀ n, d.request? = some n → R.serves n)
    (h : Holds live held) :
    R.Careful live (d.step (handlingFrom S R.watched) held) (d.step (handling S A) held)
      fun held' live' => Holds live' held' := by
  cases d with
  | lower v => exact (v.lower_careful (served _ rfl)).map fun _ _ granted => h.granted granted
  | raw bs => exact (raw_careful S (served _ rfl)).map fun _ _ granted => h.granted granted
  | use i u =>
    cases hb : held[i]? with
    | none =>
      rw [Deed.step_use_none hb, Deed.step_use_none hb]
      exact careful_pure h
    | some b =>
      rw [Deed.step_use_some hb, Deed.step_use_some hb]
      obtain ⟨hi, rfl⟩ := List.getElem?_eq_some_iff.1 hb
      have mem := List.getElem_mem hi
      have h' := h.perm (List.getElem_cons_eraseIdx_perm hi).symm
      refine (u.apply_careful (h.layout _ mem) (h.liveIn mem) S).map ?_
      rintro _ _ (⟨rfl, rfl⟩ | ⟨rfl, rfl⟩)
      · exact h'.taken
      · exact h'

/-- So they do whatever is done. -/
theorem Deed.run_careful (deeds : List Deed)
    (served : ∀ d ∈ deeds, ∀ n, d.request? = some n → R.serves n) (h : Holds live held) :
    R.Careful live (run (handlingFrom S R.watched) deeds held) (run (handling S A) deeds held)
      fun held' live' => Holds live' held' := by
  induction deeds generalizing live held with
  | nil => exact careful_pure h
  | cons d ds ih =>
    refine (d.step_careful S (served d (List.mem_cons_self ..)) h).bind ?_
    intro held' live' h'
    exact ih (fun d hd => served d (List.mem_cons_of_mem _ hd)) h'

end Running

/-! ### Whole runs -/

/-- **The live blocks are those of the buffers held**, after every deed, and each block is given
back once: it was live at first or handed out in between just as often as it is live at last or was
given back in between, it is given back only while it is live, and while it is not it is not looked
at.  Watching the buffers changes nothing in what the host does. -/
theorem live_are_held (S : Schema) {A : Allocator σ} (R : A.Reliable) (deeds : List Deed)
    (served : ∀ d ∈ deeds, ∀ n, d.request? = some n → R.serves n) {s : σ} {held : List Buffer}
    (ordered : R.inOrder s) (holds : Holds (R.live s) held) :
    (∀ n, let now := Deed.run (handling S A) (deeds.take n) held s
      Holds (R.live now.2) now.1) ∧
    handlingFrom S (.plain A) = handling S A ∧
    let last := Deed.run (handling S A) deeds held s
    ∃ accesses, Deed.run (handlingFrom S R.watched) deeds held (s, []) =
        (last.1, last.2, accesses) ∧ (∀ x ∈ accesses, x.Proper) ∧
      ∀ a, (R.live s).count a + (accesses.flatMap Access.handedOut).count a =
        (R.live last.2).count a + (accesses.flatMap Access.givenBack).count a := by
  refine ⟨?_, handlingFrom_plain S A, ?_⟩
  · intro n now
    have served' : ∀ d ∈ deeds.take n, ∀ n, d.request? = some n → R.serves n :=
      fun d hd => served d (List.mem_of_mem_take hd)
    obtain ⟨-, -, -, -, hnow⟩ := Deed.run_careful S (deeds.take n) served' holds s [] ordered rfl
    exact hnow
  · intro last
    obtain ⟨accesses, hrun, accounts, -, -⟩ :=
      Deed.run_careful S deeds served holds s [] ordered rfl
    exact ⟨accesses, hrun, accounts.proper, accounts.balance⟩

/-- The buffer entry points of the native side do not fail, as long as nothing is asked for that is
too long. -/
def nativeEntriesReliable : nativeEntries.allocator.Reliable :=
  Heap.reliable _ (· ≤ maxLength)
    (fun _ h short => (nativeEntries_alloc short h).trans (Native.alloc_eq short h))
    (fun _ h layout _ => nativeEntries_free (Native.free_eq layout h))

/-- A text is lowered and raw bytes are asked for; the text's buffer is handed on, the raw bytes are
lifted as a text, which they are not, and the text comes back as the message of a panic. -/
def errand : List Deed :=
  [.lower (.text "ab"), .raw [255], .use 1 .handOn, .use 1 (.lift .text),
    .use 0 (.status .panic .text)]

/-- After the errand nothing is held and nothing is live. -/
theorem live_are_held_errand :
    let last := Deed.run (handling Sample.schema nativeEntries.allocator) errand [] {}
    (∀ d ∈ errand, ∀ n, d.request? = some n → n ≤ maxLength) ∧ Holds ({} : Heap).live [] ∧
      last.1 = [] ∧ last.2.live = [] := by
  intro last
  have short : ∀ d ∈ errand, ∀ n ∈ d.request?, n ≤ maxLength := by decide
  have holds : Holds ({} : Heap).live [] := ⟨nofun, .nil, .nil⟩
  have hheld : last.1 = [] := by decide
  have after := (live_are_held Sample.schema nativeEntriesReliable errand short (s := {})
    nofun holds).1 errand.length
  rw [List.take_length] at after
  have hblocks : last.2.live.Perm (last.1.flatMap fun b => b.address?.toList) := after.blocks
  rw [hheld] at hblocks
  exact ⟨short, holds, hheld, hblocks.eq_nil⟩

end CallBoundary.Host
