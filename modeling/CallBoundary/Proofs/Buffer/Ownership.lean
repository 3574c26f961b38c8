import CallBoundary.Proofs.Buffer.Audit
import CallBoundary.Proofs.Buffer.Transfer
import CallBoundary.Proofs.Wire.Canonical

/-!
# Who owns a buffer

Lowering asks an allocator for one buffer, of the length of the encoding, and hands it over or gives
it back.  Lifting asks for none and gives back the buffer it was handed, whatever the bytes in it
are.  An allocator that refuses, hands out no data, or hands out less or more than was asked changes
nothing in this; only one that refuses to take a buffer back is left with it
(`Allocator.Sound.transfer_owned`).
-/

namespace CallBoundary

variable {σ α : Type}

/-- What is handed out with data has room for as many bytes as it claims to hold.  Nothing is said of
how many these are, of a buffer without data, and of when there is a buffer at all. -/
def Allocator.Sound (A : Allocator σ) : Prop :=
  ∀ n s b s', A.alloc n s = .ok b s' → b.address? ≠ none → b.check = .ok ()

/-- What is handed out and cannot be used has no data, so there is nothing to give back. -/
theorem Allocator.Sound.no_data {A : Allocator σ} (sound : A.Sound) {n : Nat} {s s' : σ} {b : Buffer}
    {e : WireError} (asked : A.alloc n s = .ok b s') (layout : b.check = .error e) :
    b.address? = none := by
  cases h : b.address? with
  | none => rfl
  | some a =>
    rw [sound n s b s' asked (h ▸ nofun)] at layout
    cases layout

/-! ### Lowering -/

/-- A buffer with a sound layout that is overwritten as far as its contents go keeps its data, and
has the new bytes for contents. -/
theorem Buffer.overwrite_sound {b : Buffer} {bs : Bytes} (h : b.check = .ok ())
    (room : bs.length ≤ b.contents.length) :
    (b.overwrite bs).check = .ok () ∧ (b.overwrite bs).length = bs.length ∧
      (b.overwrite bs).contents = bs ∧ (b.overwrite bs).address? = b.address? := by
  obtain ⟨storage, n⟩ := b
  cases storage with
  | null c =>
    obtain rfl : bs = [] := List.eq_nil_of_length_eq_zero (Nat.le_zero.1 room)
    cases c with
    | zero => exact ⟨rfl, rfl, rfl, rfl⟩
    | succ c => cases h
  | block blk =>
    obtain ⟨hcheck, hlen, hcontents⟩ := Buffer.overwrite_block blk n bs
    exact ⟨hcheck, hlen, hcontents, rfl⟩

/-- A buffer without data whose layout is sound owns nothing. -/
theorem Buffer.eq_unallocated {b : Buffer} (h : b.check = .ok ()) (ha : b.address? = none) :
    b = .unallocated := by
  obtain ⟨storage, n⟩ := b
  cases storage with
  | block blk => cases ha
  | null c =>
    cases c with
    | succ c => cases h
    | zero =>
      cases n with
      | zero => rfl
      | succ n => cases h

theorem Buffer.address?_of_isUnallocated {b : Buffer} (hb : b.isUnallocated = true) :
    b.address? = none := by
  have hs : b.storage = .null 0 := eq_of_beq hb
  rw [address?, hs]

theorem Buffer.not_isUnallocated {b : Buffer} (ha : b.address? ≠ none) :
    b.isUnallocated = false := by
  cases hb : b.isUnallocated with
  | false => rfl
  | true => exact absurd (address?_of_isUnallocated hb) ha

/-- In a buffer with a sound layout as many bytes count as its length says. -/
theorem Buffer.length_contents {b : Buffer} (h : b.check = .ok ()) :
    b.contents.length = b.length := by
  obtain ⟨storage, n⟩ := b
  cases storage with
  | null c =>
    have hu := Buffer.eq_unallocated h rfl
    rw [hu]
    rfl
  | block blk =>
    have hle : n ≤ blk.size := by
      refine Decidable.byContradiction fun hn => ?_
      have hc : (⟨.block blk, n⟩ : Buffer).check = .error (.lengthExceedsCapacity n blk.size) :=
        if_neg hn
      rw [hc] at h
      cases h
    show (blk.first n).length = n
    rw [Block.first_eq, List.length_take, blk.length_bytes, Nat.min_eq_left hle]

namespace Value

theorem mirrors_lower (A : Allocator σ) (v : Value) :
    Mirrors (v.lower A.audited) (v.lower A) := by
  rw [lower_eq, lower_eq]
  refine (mirrors_noting _ _).bind fun b => (mirrors_ofExcept _).bind fun _ => ?_
  rcases v.writeOuter.runOn (.fresh b.contents) with ⟨e | ⟨⟩, r⟩
  · exact (mirrors_noting _ _).bind fun _ => mirrors_ofExcept (.error e)
  · exact mirrors_ofExcept (.ok _)

/-- How lowering a value can go with an allocator: the result, and the calls made for it. -/
inductive Lowering (A : Allocator σ) (s : σ) (v : Value) :
    Except WireError Buffer → List AllocatorCall → Prop
  /-- There is no buffer. -/
  | refused {e : WireError} {s₁ : σ} (asked : A.alloc v.outerLength s = .error e s₁) :
    Lowering A s v (.error e) [.alloc v.outerLength (.error e)]
  /-- The buffer cannot be used. -/
  | broken {b : Buffer} {e : WireError} {s₁ : σ} (asked : A.alloc v.outerLength s = .ok b s₁)
    (layout : b.check = .error e) : Lowering A s v (.error e) [.alloc v.outerLength (.ok b)]
  /-- The value is written and handed over. -/
  | written {b : Buffer} {s₁ : σ} (asked : A.alloc v.outerLength s = .ok b s₁)
    (layout : b.check = .ok ()) (room : v.outerLength ≤ b.length) :
    Lowering A s v (.ok (b.overwrite v.encodeOuter)) [.alloc v.outerLength (.ok b)]
  /-- The value is not written, and the buffer goes back. -/
  | returned {b : Buffer} {e : WireError} {s₁ s₂ : σ} (asked : A.alloc v.outerLength s = .ok b s₁)
    (full : v.fits = true → ¬ v.outerLength ≤ b.length) (freed : A.free b s₁ = .ok () s₂) :
    Lowering A s v (.error e) [.alloc v.outerLength (.ok b), .free b (.ok ())]
  /-- The value is not written, and the buffer is not taken back. -/
  | stranded {b : Buffer} {e : WireError} {s₁ s₂ : σ} (asked : A.alloc v.outerLength s = .ok b s₁)
    (full : v.fits = true → ¬ v.outerLength ≤ b.length) (freed : A.free b s₁ = .error e s₂) :
    Lowering A s v (.error e) [.alloc v.outerLength (.ok b), .free b (.error e)]

/-- **One buffer is asked for**, and what becomes of it. -/
theorem lowering (v : Value) (A : Allocator σ) (s : σ) :
    v.Lowering A s (audit A (fun A => v.lower A) s).1 (audit A (fun A => v.lower A) s).2 := by
  cases ha : A.alloc v.outerLength s with
  | error e s₁ =>
    rw [audit_error (bind_of_error (audited_alloc_error [] ha) _)]
    exact .refused ha
  | ok b s₁ =>
    have halloc := audited_alloc_ok [] ha
    cases hb : b.check with
    | error e =>
      rw [audit_error ((bind_of_ok halloc _).trans (bind_of_error (ofExcept_of_error hb _) _))]
      exact .broken ha hb
    | ok u =>
      have hroom : (Region.fresh b.contents).available = b.length := Buffer.length_contents hb
      cases hw : v.writeOuter (.fresh b.contents) with
      | ok u r =>
        obtain ⟨room, -⟩ := v.writes_encodeOuter _ r hw
        rw [length_encodeOuter, hroom] at room
        have hrun : v.lower A.audited (s, []) =
            .ok (b.overwrite v.encodeOuter) (s₁, [.alloc v.outerLength (.ok b)]) := by
          rw [lower_eq, bind_of_ok halloc, bind_of_ok (ofExcept_of_ok hb _), filled_of_ok hw]
          rfl
        rw [audit_ok hrun]
        exact .written ha hb room
      | error e r =>
        have full : v.fits = true → ¬ v.outerLength ≤ b.length := by
          intro hfit hle
          rw [writeOuter_eq hfit (hroom ▸ hle)] at hw
          cases hw
        have hrun : v.lower A.audited (s, []) = (do A.audited.free b; throw e)
            (s₁, [.alloc v.outerLength (.ok b)]) := by
          rw [lower_eq, bind_of_ok halloc, bind_of_ok (ofExcept_of_ok hb _), filled_of_error hw]
          rfl
        cases hf : A.free b s₁ with
        | ok u s₂ =>
          rw [audit_error (hrun.trans (bind_of_ok (audited_free_ok _ hf) _))]
          exact .returned ha full hf
        | error e' s₂ =>
          rw [audit_error (hrun.trans (bind_of_error (audited_free_error _ hf) _))]
          exact .stranded ha full hf

/-- The same, with the calls as they are noted behind others. -/
theorem lowering_notes (v : Value) (A : Allocator σ) (s : σ) :
    ∃ calls, Notes (attempt (v.lower A.audited)) (attempt (v.lower A)) s calls ∧
      v.Lowering A s (outcome (v.lower A) s) calls := by
  obtain ⟨hout, hnotes⟩ := audit_notes (fun A => v.lower A) (mirrors_lower A v) s
  exact ⟨_, hnotes, hout ▸ v.lowering A s⟩

/-- What lowering a value leaves behind. -/
structure Handed (v : Value) (result : Except WireError Buffer) (calls : List AllocatorCall) :
    Prop where
  /-- One buffer is asked for, and it is given back at most once. -/
  asked : ∃ answer more, calls = .alloc v.outerLength answer :: more ∧
    (more = [] ∨ ∃ b freed, answer = .ok b ∧ more = [.free b freed])
  /-- The taker gets the encoding, and its data is the one block more that is live. -/
  handed : ∀ b, result = .ok b → b.check = .ok () ∧ b.length = v.outerLength ∧
    b.contents = v.encodeOuter ∧ ∀ live, liveAfter live calls = b.address?.toList ++ live
  /-- There is none for a value without bytes if the allocator left it at that. -/
  nothing : ∀ b, result = .ok b →
    (b.address? = none ↔ v.outerLength = 0 ∧ calls = [.alloc 0 (.ok .unallocated)])
  /-- Whoever fails keeps nothing, but for what is not taken back. -/
  failed : ∀ e, result = .error e → (∀ live, liveAfter live calls = live) ∨
    ∃ b, calls = [.alloc v.outerLength (.ok b), .free b (.error e)]
  /-- A buffer with room is put to use. -/
  used : ∀ b, calls.head? = some (.alloc v.outerLength (.ok b)) → b.check = .ok () →
    v.fits = true → v.outerLength ≤ b.length → ∃ b', result = .ok b'

section Lowering

variable {A : Allocator σ} {s : σ} {v : Value} {result : Except WireError Buffer}
  {calls : List AllocatorCall} {b : Buffer} {e : WireError}

theorem Lowering.asked (h : v.Lowering A s result calls) :
    ∃ answer more, calls = .alloc v.outerLength answer :: more ∧
      (more = [] ∨ ∃ b freed, answer = .ok b ∧ more = [.free b freed]) := by
  cases h with
  | refused => exact ⟨_, [], rfl, .inl rfl⟩
  | broken => exact ⟨_, [], rfl, .inl rfl⟩
  | written => exact ⟨_, [], rfl, .inl rfl⟩
  | returned => exact ⟨_, _, rfl, .inr ⟨_, _, rfl, rfl⟩⟩
  | stranded => exact ⟨_, _, rfl, .inr ⟨_, _, rfl, rfl⟩⟩

/-- A buffer is handed over in one case only: the allocator's, with the value written to it. -/
theorem Lowering.ok (h : v.Lowering A s (.ok b) calls) :
    ∃ b₀, calls = [.alloc v.outerLength (.ok b₀)] ∧ b₀.check = .ok () ∧
      v.outerLength ≤ b₀.length ∧ b.check = .ok () ∧ b.length = v.outerLength ∧
      b.contents = v.encodeOuter ∧ b.address? = b₀.address? := by
  cases h with
  | @written b₀ s₁ asked layout room =>
    have hroom : v.encodeOuter.length ≤ b₀.contents.length := by
      rwa [length_encodeOuter, Buffer.length_contents layout]
    obtain ⟨hcheck, hlen, hcontents, haddress⟩ := Buffer.overwrite_sound layout hroom
    exact ⟨b₀, rfl, layout, room, hcheck, hlen.trans v.length_encodeOuter, hcontents, haddress⟩

theorem Lowering.nothing (h : v.Lowering A s (.ok b) calls) :
    b.address? = none ↔ v.outerLength = 0 ∧ calls = [.alloc 0 (.ok .unallocated)] := by
  obtain ⟨b₀, rfl, layout, room, -, -, -, haddress⟩ := h.ok
  rw [haddress]
  constructor
  · intro ha
    obtain rfl := Buffer.eq_unallocated layout ha
    have hzero : v.outerLength = 0 := Nat.le_zero.1 room
    exact ⟨hzero, hzero ▸ rfl⟩
  · rintro ⟨-, hcalls⟩
    have hb : (.ok b₀ : Except WireError Buffer) = .ok .unallocated :=
      (AllocatorCall.alloc.inj (List.cons.inj hcalls).1).2
    cases hb
    rfl

theorem Lowering.failed (sound : A.Sound) (h : v.Lowering A s (.error e) calls) :
    (∀ live, liveAfter live calls = live) ∨
      ∃ b, calls = [.alloc v.outerLength (.ok b), .free b (.error e)] := by
  cases h with
  | refused => exact .inl fun _ => rfl
  | @broken b _ _ asked layout =>
    refine .inl fun live => ?_
    show b.address?.toList ++ live = live
    rw [sound.no_data asked layout]
    rfl
  | @returned b => exact .inl fun live => liveAfter_returned live _ b
  | @stranded b => exact .inr ⟨b, rfl⟩

/-- The taker's data and what is not taken back are the blocks more that are live. -/
theorem Lowering.live (sound : A.Sound) (h : v.Lowering A s result calls) (live : List Nat) :
    liveAfter live calls = (result.toOption.bind Buffer.address?).toList ++
      (calls.filterMap AllocatorCall.lost? ++ live) := by
  cases h with
  | refused => rfl
  | @broken b _ _ asked layout =>
    show b.address?.toList ++ live = live
    rw [sound.no_data asked layout]
    rfl
  | @written b _ asked layout room =>
    obtain ⟨b₀, hcalls, -, -, -, -, -, haddress⟩ := (Lowering.written asked layout room).ok
    cases hcalls
    show b.address?.toList ++ live = (b.overwrite v.encodeOuter).address?.toList ++ live
    rw [haddress]
  | @returned b => exact liveAfter_returned live _ b
  | @stranded b e =>
    have hlost : [AllocatorCall.alloc v.outerLength (.ok b), .free b (.error e)].filterMap
        AllocatorCall.lost? = b.address?.toList := by
      simp only [List.filterMap, AllocatorCall.lost?]
      cases b.address? <;> rfl
    rw [hlost]
    rfl

theorem Lowering.used (h : v.Lowering A s result calls)
    (hb : calls.head? = some (.alloc v.outerLength (.ok b))) (layout : b.check = .ok ())
    (bounded : v.fits = true) (room : v.outerLength ≤ b.length) : ∃ b', result = .ok b' := by
  cases h with
  | refused => cases hb
  | broken _ h =>
    cases hb
    rw [layout] at h
    cases h
  | written => exact ⟨_, rfl⟩
  | returned _ full _ =>
    cases hb
    exact absurd room (full bounded)
  | stranded _ full _ =>
    cases hb
    exact absurd room (full bounded)

theorem Lowering.handed (sound : A.Sound) (h : v.Lowering A s result calls) :
    v.Handed result calls := by
  constructor
  · exact h.asked
  · rintro b rfl
    obtain ⟨b₀, rfl, -, -, hcheck, hlen, hcontents, haddress⟩ := h.ok
    rw [haddress]
    exact ⟨hcheck, hlen, hcontents, fun _ => rfl⟩
  · rintro b rfl
    exact h.nothing
  · rintro e rfl
    exact h.failed sound
  · intro b hb layout bounded room
    exact h.used hb layout bounded room

end Lowering

end Value

/-! ### Lifting -/

/-- A reader makes something of a whole byte run when it comes to its end. -/
theorem Reader.all_ok {r : Reader α} {bs : Bytes} {a : α} :
    r.all bs = .ok a ↔ ∃ c, r (.start bs) = .ok a c ∧ c.unread = [] := by
  unfold Reader.all
  cases h : r (.start bs) with
  | error e c => exact ⟨nofun, nofun⟩
  | ok a' c =>
    by_cases hc : c.unread = []
    · have hfinish : Reader.finish c = .ok () c := if_pos (congrArg List.length hc)
      simp only [hfinish]
      constructor
      · rintro ⟨⟩
        exact ⟨c, rfl, hc⟩
      · rintro ⟨_, ⟨⟩, -⟩
        rfl
    · have hfinish : Reader.finish c = .error (.trailing c.remaining) c :=
        if_neg fun h => hc (List.eq_nil_of_length_eq_zero h)
      simp only [hfinish]
      constructor
      · exact nofun
      · rintro ⟨_, ⟨⟩, hnil⟩
        exact absurd hnil hc

namespace Schema

/-- These bytes are the whole of what the value is read from: the bare bytes of a text or byte run,
and for any other value what its reader takes, with nothing left over. -/
inductive Whole (S : Schema) : WireType → Bytes → Value → Prop
  | text (s : String) : Whole S .text (encodeText s) (.text s)
  | bytes (bs : Bytes) : Whole S .bytes bs (.bytes bs)
  | other {t : WireType} {bs : Bytes} {v : Value} {c : Cursor} (bare : t ≠ .text ∧ t ≠ .bytes)
    (taken : S.read t (.start bs) = .ok v c) (used : c.unread = []) : Whole S t bs v

theorem readOuter_of_bare (S : Schema) {t : WireType} (bare : t ≠ .text ∧ t ≠ .bytes)
    (bs : Bytes) : S.readOuter t bs = (S.read t).all bs := by
  rw [← map_readLater]
  cases t with
  | text => exact absurd rfl bare.1
  | bytes => exact absurd rfl bare.2
  | _ => rfl

theorem readOuter_text (S : Schema) {bs : Bytes} {v : Value} (h : S.readOuter .text bs = .ok v) :
    S.Whole .text bs v := by
  have h : (Reader.ofText bs).map Value.text = .ok v := h
  cases hs : Reader.ofText bs with
  | error e =>
    rw [hs] at h
    cases h
  | ok s =>
    rw [hs] at h
    cases h
    rw [← Reader.encodeText_of_ofText hs]
    exact .text s

/-- A value is made of the contents of a buffer just when they are the whole of it. -/
theorem readOuter_ok {S : Schema} {t : WireType} {bs : Bytes} {v : Value} :
    S.readOuter t bs = .ok v ↔ S.Whole t bs v := by
  constructor
  · intro h
    by_cases bare : t ≠ .text ∧ t ≠ .bytes
    · rw [S.readOuter_of_bare bare] at h
      obtain ⟨c, taken, used⟩ := Reader.all_ok.1 h
      exact .other bare taken used
    · cases t with
      | text => exact S.readOuter_text h
      | bytes =>
        cases h
        exact .bytes bs
      | _ => exact absurd ⟨nofun, nofun⟩ bare
  · intro h
    cases h with
    | text s => simp [readOuter, Reader.ofText, decodeText_encodeText, Except.map]
    | bytes bs => rfl
    | other bare taken used =>
      rw [S.readOuter_of_bare bare]
      exact Reader.all_ok.2 ⟨_, taken, used⟩

/-- **A buffer that can be looked at is given back once**, whatever its contents, and that is all
that is asked of the allocator. -/
theorem lift_notes (S : Schema) (A : Allocator σ) (t : WireType) {b : Buffer}
    (layout : b.check = .ok ()) (s : σ) :
    Notes (attempt (S.lift A.audited t b)) (attempt (S.lift A t b)) s
      [.free b (outcome (A.free b) s)] := by
  rw [lift_eq, lift_eq]
  exact .check_bind layout ((notes_free A b s).liftM_bind_nil (notes_ofExcept _ _))

/-- A buffer that cannot be looked at stays where it is. -/
theorem lift_notes_broken (S : Schema) (A : Allocator σ) (t : WireType) {b : Buffer} {e : WireError}
    (layout : b.check = .error e) (s : σ) :
    Notes (attempt (S.lift A.audited t b)) (attempt (S.lift A t b)) s [] := by
  rw [lift_eq, lift_eq, layout]
  exact notes_ofExcept (.error e) s

theorem mirrors_lift (A : Allocator σ) (S : Schema) (t : WireType) (b : Buffer) :
    Mirrors (S.lift A.audited t b) (S.lift A t b) := by
  intro s
  cases layout : b.check with
  | ok u => exact ⟨_, S.lift_notes A t layout s⟩
  | error e => exact ⟨_, S.lift_notes_broken A t layout s⟩

/-- What lifting from a buffer leaves behind. -/
structure Released (S : Schema) (t : WireType) (b : Buffer) (result : Except WireError Value)
    (calls : List AllocatorCall) : Prop where
  /-- The buffer is given back, once, and that is all that is asked. -/
  freed : ∃ answer, calls = [.free b answer]
  /-- There is a value just when the contents are the whole of it and the buffer is taken back. -/
  ok : ∀ v, result = .ok v ↔ S.Whole t b.contents v ∧ calls = [.free b (.ok ())]

theorem released (S : Schema) (A : Allocator σ) (t : WireType) {b : Buffer}
    (layout : b.check = .ok ()) (s : σ) :
    S.Released t b (audit A (fun A => S.lift A t b) s).1 (audit A (fun A => S.lift A t b) s).2 := by
  have hlift : (attempt (S.lift A t b) s).1 = S.lifted t b.contents (outcome (A.free b) s) := by
    rw [lift_eq, attempt_bind_of_ok (ofExcept_of_ok layout s),
      attempt_bind_of_ok (liftM_attempt _ s), attempt_ofExcept]
    rfl
  have haudit : audit A (fun A => S.lift A t b) s =
      (S.lifted t b.contents (outcome (A.free b) s), [.free b (outcome (A.free b) s)]) := by
    unfold audit
    rw [S.lift_notes A t layout s [], hlift]
    rfl
  rw [haudit]
  refine ⟨⟨_, rfl⟩, fun v => ?_⟩
  rw [← readOuter_ok]
  cases hf : outcome (A.free b) s with
  | ok u =>
    rw [lifted_of_ok]
    exact ⟨fun h => ⟨h, rfl⟩, And.left⟩
  | error e =>
    obtain ⟨e', he⟩ := S.lifted_of_error t b.contents e
    rw [he]
    refine ⟨nofun, ?_⟩
    rintro ⟨-, hcalls⟩
    cases hcalls

end Schema

/-! ### Any allocator -/

/-- An allocator that follows a plan hands out no claim that its data does not bear out. -/
theorem Plan.allocator_sound (p : Plan) : p.allocator.Sound := by
  intro n s b s' h ha
  have hzeros : ∀ {k : Nat} {s₀ : Heap}, Heap.zeros k s₀ = .ok b s' → b.check = .ok () := by
    rintro k s₀ ⟨⟩
    exact if_pos (Nat.le_refl _)
  unfold Plan.allocator at h
  dsimp only at h
  split at h
  · exact hzeros h
  · cases h
  · cases h
    exact absurd rfl ha
  · exact hzeros h
  · exact hzeros h

/-- **Nobody is left with a buffer.**  Whatever an allocator hands out and takes back, a value that is
lowered costs one request, and on success one block that holds its encoding; a buffer that is lifted
from is given back, once, whatever it holds. -/
theorem Allocator.Sound.transfer_owned {A : Allocator σ} (sound : A.Sound) (s : σ) :
    (∀ v : Value, v.Handed (outcome (v.lower A) s) (audit A (fun A => v.lower A) s).2) ∧
    ∀ (S : Schema) (t : WireType) (b : Buffer), b.check = .ok () →
      S.Released t b (outcome (S.lift A t b) s) (audit A (fun A => S.lift A t b) s).2 := by
  constructor
  · intro v
    rw [audit_outcome (fun A => v.lower A) (Value.mirrors_lower A v)]
    exact (v.lowering A s).handed sound
  · intro S t b layout
    rw [audit_outcome (fun A => S.lift A t b) (Schema.mirrors_lift A S t b)]
    exact S.released A t layout s

/-- Hands out a byte less than it is asked for, and takes nothing back. -/
def Plan.stingy : Plan where
  supply _ := .short 1
  refusal _ := some "closed"

/-- A truth value and a byte too many. -/
def overfull : Buffer := .ofBlock ⟨7, [1, 9], 0⟩

/-- With the stingy allocator a text is not lowered and its buffer is lost; from the buffer that is
too full nothing is lifted, and it is offered back all the same. -/
theorem transfer_owned_stingy :
    Plan.stingy.allocator.Sound ∧
    (Value.text "ab").Handed (outcome ((Value.text "ab").lower Plan.stingy.allocator) {})
      (audit Plan.stingy.allocator (fun A => (Value.text "ab").lower A) {}).2 ∧
    overfull.check = .ok () ∧
    Sample.schema.Released .bool overfull
      (outcome (Sample.schema.lift Plan.stingy.allocator .bool overfull) {})
      (audit Plan.stingy.allocator (fun A => Sample.schema.lift A .bool overfull) {}).2 :=
  have sound := Plan.stingy.allocator_sound
  have layout : overfull.check = .ok () := rfl
  have owned := Allocator.Sound.transfer_owned sound {}
  ⟨sound, owned.1 (.text "ab"), layout, owned.2 Sample.schema .bool overfull layout⟩

end CallBoundary
