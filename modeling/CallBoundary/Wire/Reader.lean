import CallBoundary.Wire.Error
import CallBoundary.Wire.Scalar

/-!
# Reading from the front of a byte run

A `Reader` takes bytes from the front of a run.  When it fails it stays where it got to, so that
the place of a failure can be told and reading can go on.

`Takes k r` says that `r` only ever moves on from its start, and takes at least `k` bytes when it
succeeds; the lemmas `takes_…` say so of each reader.
-/

namespace CallBoundary

/-- A place in a byte run: how many bytes came before it and which come after. -/
structure Cursor where
  position : Nat
  unread : Bytes
deriving DecidableEq, Repr

/-- The front of a byte run. -/
def Cursor.start (bs : Bytes) : Cursor := ⟨0, bs⟩

/-- How many bytes are unread. -/
abbrev Cursor.remaining (c : Cursor) : Nat := c.unread.length

/-- The place `n` bytes on. -/
def Cursor.skip (c : Cursor) (n : Nat) : Cursor := ⟨c.position + n, c.unread.drop n⟩

namespace Cursor

/-- A place is reached from another by passing over bytes. -/
def Onward (c c' : Cursor) : Prop := ∃ n ≤ c.remaining, c' = c.skip n

theorem Onward.refl (c : Cursor) : c.Onward c := ⟨0, Nat.zero_le _, rfl⟩

theorem onward_skip {c : Cursor} {n : Nat} (h : n ≤ c.remaining) : c.Onward (c.skip n) :=
  ⟨n, h, rfl⟩

theorem Onward.trans {c c₁ c₂ : Cursor} (h₁ : c.Onward c₁) (h₂ : c₁.Onward c₂) : c.Onward c₂ := by
  obtain ⟨m, hm, rfl⟩ := h₁
  obtain ⟨n, hn, rfl⟩ := h₂
  refine ⟨m + n, ?_, ?_⟩
  · simp only [remaining, skip, List.length_drop] at hm hn ⊢
    omega
  · simp [skip, Nat.add_assoc]

theorem Onward.le {c c' : Cursor} (h : c.Onward c') : c'.remaining ≤ c.remaining := by
  obtain ⟨n, -, rfl⟩ := h
  simp [remaining, skip]

/-- Whoever has not moved on is where they were. -/
theorem Onward.eq {c c' : Cursor} (h : c.Onward c') (hp : c'.position = c.position) : c' = c := by
  obtain ⟨n, -, rfl⟩ := h
  have hn : n = 0 := by simp only [skip] at hp; omega
  subst hn
  rfl

end Cursor

/-- A computation that reads. -/
abbrev Reader := EStateM WireError Cursor

namespace Reader

/-- Exactly `n` bytes.  Only these are looked at, so that the cost does not depend on what follows
them; `take_apply` says it in terms of all that is unread. -/
def take (n : Nat) : Reader Bytes := fun c =>
  let front := c.unread.take n
  if front.length = n then .ok front (c.skip n) else .error (.truncated n c.remaining) c

theorem take_apply (n : Nat) (c : Cursor) : take n c =
    if n ≤ c.remaining then .ok (c.unread.take n) (c.skip n)
    else .error (.truncated n c.remaining) c := by
  have h : min n c.remaining = n ↔ n ≤ c.remaining := by omega
  simp only [take, List.length_take, h]

/-- Everything left. -/
def rest : Reader Bytes := fun c => .ok c.unread (c.skip c.remaining)

/-- A scalar. -/
def scalar (t : ScalarType) : Reader Scalar := return .ofBytes t (← take t.width)

/-- A length or count. -/
def length : Reader Nat := do
  let n := (← scalar .i32).toInt
  if n < 0 then throw (.negativeLength n) else return n.toNat

/-- The truth value a byte stands for. -/
def boolOf : Int → Except WireError Bool
  | 0 => .ok false
  | 1 => .ok true
  | n => .error (.badBool n)

/-- A truth value. -/
def bool : Reader Bool := do
  match boolOf (← scalar .i8).toInt with
  | .ok b => return b
  | .error e => throw e

/-- Whether an optional value is present. -/
def presence : Reader Bool := do
  match ← take 1 with
  | [0] => return false
  | [1] => return true
  | bs => throw (.badPresence (bs.headD 0))

/-- The tag of a variant. -/
def tag : Reader (BitVec 32) := return .ofNat 32 (ofBigEndian (← take 4))

/-- A length and as many bytes. -/
def bytes : Reader Bytes := do take (← length)

/-- The text a byte run spells. -/
def ofText (bs : Bytes) : Except WireError String :=
  match decodeText bs with
  | .ok s => .ok s
  | .error f => .error (.badText f)

/-- A length and as many bytes of text. -/
def text : Reader String := do
  match ofText (← bytes) with
  | .ok s => return s
  | .error e => throw e

/-- Nothing may be left. -/
def finish : Reader Unit := fun c =>
  if c.remaining = 0 then .ok () c else .error (.trailing c.remaining) c

/-- What a reader makes of a whole byte run, which it has to use up. -/
def all (r : Reader α) (bs : Bytes) : Except WireError α :=
  match r (.start bs) with
  | .error e _ => .error e
  | .ok a c => match finish c with
    | .ok () _ => .ok a
    | .error e _ => .error e

theorem bind_apply (r : Reader α) (f : α → Reader β) (c : Cursor) :
    (r >>= f) c = match r c with
      | .ok a c' => f a c'
      | .error e c' => .error e c' := by
  show EStateM.bind r f c = _
  unfold EStateM.bind
  cases r c <;> rfl

theorem map_all (f : α → β) (r : Reader α) (bs : Bytes) :
    (r.all bs).map f = all (do return f (← r)) bs := by
  simp only [all, bind_apply]
  cases r (.start bs) with
  | error e c => rfl
  | ok a c => cases h : finish c <;> simp only [pure, EStateM.pure, h] <;> rfl

/-! ### Readers never give bytes back -/

/-- The place a reading ends at, whether or not it fails. -/
def reached : EStateM.Result WireError Cursor α → Cursor
  | .ok _ c => c
  | .error _ c => c

/-- A reader that takes at least `k` bytes when it succeeds, and always moves on. -/
structure Takes (k : Nat) (r : Reader α) : Prop where
  onward : ∀ c : Cursor, c.Onward (reached (r c))
  ok : ∀ c a c', r c = .ok a c' → c'.remaining + k ≤ c.remaining

theorem takes_pure (a : α) : Takes 0 (pure a) := by
  constructor
  · intro c; exact .refl c
  · rintro c b c' ⟨⟩; exact Nat.le_refl _

theorem takes_throw (e : WireError) (k : Nat) : Takes k (throw e : Reader α) := by
  constructor
  · intro c; exact .refl c
  · rintro c b c' ⟨⟩

theorem takes_take (n : Nat) : Takes n (take n) := by
  constructor
  · intro c
    rw [take_apply]
    split
    · next h => exact Cursor.onward_skip h
    · exact .refl c
  · intro c a c' h
    by_cases hn : n ≤ c.remaining
    · simp only [take_apply, hn, if_true, EStateM.Result.ok.injEq] at h
      obtain ⟨-, rfl⟩ := h
      simp only [Cursor.skip, Cursor.remaining, List.length_drop] at hn ⊢
      omega
    · simp [take_apply, hn] at h

theorem Takes.bind {r : Reader α} {f : α → Reader β} {j k : Nat} (hr : Takes j r)
    (hf : ∀ a, Takes k (f a)) : Takes (j + k) (r >>= f) := by
  constructor
  · intro c
    have h := hr.onward c
    rw [bind_apply]
    cases hc : r c with
    | ok a c' => rw [hc] at h; exact h.trans ((hf a).onward c')
    | error e c' => rw [hc] at h; exact h
  · intro c b c' h
    rw [bind_apply] at h
    cases hc : r c with
    | ok a c₁ =>
      rw [hc] at h
      have h₁ := hr.ok c a c₁ hc
      have h₂ := (hf a).ok c₁ b c' h
      omega
    | error e c₁ => rw [hc] at h; cases h

theorem Takes.mono {r : Reader α} {j k : Nat} (h : Takes j r) (hk : k ≤ j) : Takes k r :=
  ⟨h.onward, fun c a c' e => by have := h.ok c a c' e; omega⟩

theorem takes_scalar (t : ScalarType) : Takes t.width (scalar t) :=
  (takes_take _).bind fun _ => takes_pure _

theorem takes_length : Takes 4 length :=
  (takes_scalar .i32).bind (k := 0) fun s => by
    dsimp only; split
    · exact takes_throw ..
    · exact takes_pure _

theorem takes_bool : Takes 1 bool :=
  (takes_scalar .i8).bind (k := 0) fun s => by
    split
    · exact takes_pure _
    · exact takes_throw ..

theorem takes_presence : Takes 1 presence :=
  (takes_take 1).bind (k := 0) fun bs => by
    split
    · exact takes_pure _
    · exact takes_pure _
    · exact takes_throw ..

theorem takes_tag : Takes 4 tag :=
  (takes_take 4).bind fun _ => takes_pure _

theorem takes_bytes : Takes 4 bytes :=
  takes_length.bind fun n => (takes_take n).mono (Nat.zero_le _)

theorem takes_text : Takes 4 text :=
  takes_bytes.bind (k := 0) fun bs => by
    split
    · exact takes_pure _
    · exact takes_throw ..

end Reader

end CallBoundary
