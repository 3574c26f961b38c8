import CallBoundary.Proofs.Outcome
import CallBoundary.Wire.Decode

/-!
# Reading looks at what it takes and no further

What a reader makes of the bytes from a place on, it makes of them whatever follows (`Local`); only
where it has run out of bytes do more bytes matter, and then no fewer than were missing.  Readers
that follow each other are local if each of them is, from where the one before has got to
(`Local.bind`), so that decoding is local for every type (`local_read`).

A value can therefore be told as soon as its bytes have come in: no longer run changes it, and on
every shorter one it is told that bytes are missing (`read_settled`).
-/

namespace CallBoundary

/-- The same place in a run that goes on with these bytes. -/
def Cursor.extend (c : Cursor) (more : Bytes) : Cursor := ⟨c.position, c.unread ++ more⟩

theorem Cursor.skip_extend {c : Cursor} {n : Nat} (h : n ≤ c.remaining) (more : Bytes) :
    (c.extend more).skip n = (c.skip n).extend more := by
  simp only [skip, extend, List.drop_append_of_le_length h]

/-- An error says that the bytes have run out. -/
def WireError.isTruncated : WireError → Bool
  | truncated _ _ => true
  | _ => false

theorem WireError.eq_truncated {e : WireError} (h : e.isTruncated = true) :
    ∃ needed remaining, e = truncated needed remaining := by
  cases e with
  | truncated needed remaining => exact ⟨needed, remaining, rfl⟩
  | _ => cases h

/-! ### Local readers -/

namespace Reader

/-- What a reader does from a place does not depend on what follows the bytes that it takes.  If it
has run out of bytes, it does so again until all are there that were missing. -/
structure Local (r : Reader α) (c : Cursor) : Prop where
  ok : ∀ a c', r c = .ok a c' → ∀ more, r (c.extend more) = .ok a (c'.extend more)
  error : ∀ e c', r c = .error e c' → e.isTruncated = false →
    ∀ more, r (c.extend more) = .error e (c'.extend more)
  truncated : ∀ needed remaining c', r c = .error (.truncated needed remaining) c' →
    remaining = c'.remaining ∧ remaining < needed ∧
    ∀ more : Bytes, more.length < needed - remaining → r (c.extend more) =
      .error (.truncated needed (remaining + more.length)) (c'.extend more)

variable {c : Cursor}

theorem local_pure (a : α) : Local (pure a) c := by
  constructor
  · rintro b c' ⟨⟩ more
    rfl
  · exact nofun
  · exact nofun

theorem local_throw {e : WireError} (h : e.isTruncated = false) :
    Local (throw e : Reader α) c := by
  constructor
  · exact nofun
  · rintro _ c' ⟨⟩ - more
    rfl
  · rintro needed remaining c' ⟨⟩
    cases h

theorem local_take (n : Nat) : Local (take n) c := by
  have hlen : ∀ more, (c.extend more).remaining = c.remaining + more.length :=
    fun more => List.length_append
  constructor
  · intro bs c' h more
    rw [take_apply] at h ⊢
    split at h
    · next hn =>
      cases h
      have hn' : n ≤ (c.extend more).remaining := by rw [hlen]; omega
      have htake : (c.extend more).unread.take n = c.unread.take n :=
        List.take_append_of_le_length hn
      rw [if_pos hn', htake, Cursor.skip_extend hn]
    · cases h
  · intro e c' h he
    rw [take_apply] at h
    split at h
    · cases h
    · cases h
      cases he
  · intro needed remaining c' h
    rw [take_apply] at h
    split at h
    · cases h
    · next hn =>
      cases h
      refine ⟨rfl, Nat.not_le.1 hn, fun more hm => ?_⟩
      have hn' : ¬ n ≤ (c.extend more).remaining := by rw [hlen]; omega
      rw [take_apply, if_neg hn', hlen]

/-- Readers in a row are local if each is local from where it starts. -/
theorem Local.bind {r : Reader α} {f : α → Reader β} (hr : Local r c)
    (hf : ∀ a c', r c = .ok a c' → Local (f a) c') : Local (r >>= f) c := by
  constructor
  · intro b c' h more
    obtain ⟨a, c₁, h₁, h₂⟩ := bind_ok h
    rw [bind_of_ok (hr.ok a c₁ h₁ more)]
    exact (hf a c₁ h₁).ok b c' h₂ more
  · intro e c' h he more
    rcases bind_failed h with h | ⟨a, c₁, h₁, h₂⟩
    · exact bind_of_error (hr.error e c' h he more) f
    · rw [bind_of_ok (hr.ok a c₁ h₁ more)]
      exact (hf a c₁ h₁).error e c' h₂ he more
  · intro needed remaining c' h
    rcases bind_failed h with h | ⟨a, c₁, h₁, h₂⟩
    · obtain ⟨hrem, hlt, hmore⟩ := hr.truncated needed remaining c' h
      exact ⟨hrem, hlt, fun more hm => bind_of_error (hmore more hm) f⟩
    · obtain ⟨hrem, hlt, hmore⟩ := (hf a c₁ h₁).truncated needed remaining c' h₂
      refine ⟨hrem, hlt, fun more hm => ?_⟩
      rw [bind_of_ok (hr.ok a c₁ h₁ more)]
      exact hmore more hm

/-! ### Readers of single items -/

theorem local_scalar (t : ScalarType) : Local (scalar t) c :=
  (local_take t.width).bind fun _ _ _ => local_pure _

theorem local_length : Local length c :=
  (local_scalar .i32).bind fun s _ _ => by
    dsimp only
    split
    · exact local_throw rfl
    · exact local_pure _

theorem boolOf_error {n : Int} {e : WireError} (h : boolOf n = .error e) :
    e.isTruncated = false := by
  unfold boolOf at h
  split at h <;> cases h
  rfl

theorem local_bool : Local bool c :=
  (local_scalar .i8).bind fun s _ _ => by
    cases h : boolOf s.toInt with
    | ok b => exact local_pure b
    | error e => exact local_throw (boolOf_error h)

theorem local_presence : Local presence c :=
  (local_take 1).bind fun bs _ _ => by
    split
    · exact local_pure _
    · exact local_pure _
    · exact local_throw rfl

theorem local_tag : Local tag c :=
  (local_take 4).bind fun _ _ _ => local_pure _

theorem local_bytes : Local bytes c :=
  local_length.bind fun n _ _ => local_take n

theorem ofText_error {bs : Bytes} {e : WireError} (h : ofText bs = .error e) :
    e.isTruncated = false := by
  unfold ofText at h
  split at h <;> cases h
  rfl

theorem local_text : Local text c :=
  local_bytes.bind fun bs _ _ => by
    cases h : ofText bs with
    | ok s => exact local_pure s
    | error e => exact local_throw (ofText_error h)

end Reader

/-! ### Readers of values -/

open Reader

namespace Schema

variable (S : Schema)

mutual
/-- **Decoding is local**, for every type and from every place. -/
theorem local_read (t : WireType) (c : Cursor) : Local (S.read t) c := by
  cases t with
  | unit => rw [read_unit]; exact local_pure _
  | bool => rw [read_bool]; exact local_bool.bind fun _ _ _ => local_pure _
  | scalar t => rw [read_scalar]; exact (local_scalar t).bind fun _ _ _ => local_pure _
  | text => rw [read_text]; exact local_text.bind fun _ _ _ => local_pure _
  | bytes => rw [read_bytes]; exact local_bytes.bind fun _ _ _ => local_pure _
  | optional t =>
    rw [read_optional]
    refine local_presence.bind fun there c' h => ?_
    cases there with
    | false => exact local_pure _
    | true => exact (local_read t c').bind fun _ _ _ => local_pure _
  | sequence t =>
    rw [read_sequence]
    refine local_length.bind fun n c' h => ?_
    exact (local_readMany t n c').bind fun _ _ _ => local_pure _
  | map k v =>
    rw [read_map]
    refine local_length.bind fun n c' h => ?_
    exact (local_readEntries k v n [] c').bind fun _ _ _ => local_pure _
  | named name =>
    cases hs : S.shape name with
    | record fields =>
      rw [read_record S hs]
      exact (local_readFields fields c).bind fun _ _ _ => local_pure _
    | choice variants =>
      rw [read_choice S hs]
      refine local_tag.bind fun tag c' h => ?_
      cases variants.find? (·.tag = tag) with
      | none => exact local_throw rfl
      | some v => exact (local_readFields v.fields c').bind fun _ _ _ => local_pure _
termination_by (c.remaining, S.level t, 0)
decreasing_by
  · have := takes_presence.ok _ _ _ h
    exact .left _ _ (by omega)
  · have := takes_length.ok _ _ _ h
    exact .left _ _ (by omega)
  · have := takes_length.ok _ _ _ h
    exact .left _ _ (by omega)
  · exact lex_lt (Nat.le_refl _) (.inl (height_lt_level hs))
  · have := takes_tag.ok _ _ _ h
    exact .left _ _ (by omega)
theorem local_readMany (t : WireType) (n : Nat) (c : Cursor) : Local (S.readMany t n) c := by
  cases n with
  | zero => rw [readMany_zero]; exact local_pure _
  | succ n =>
    rw [readMany_succ]
    refine (local_read t c).bind fun v c' h => ?_
    exact (local_readMany t n c').bind fun _ _ _ => local_pure _
termination_by (c.remaining, S.level t, n + 1)
decreasing_by
  · exact lex_lt (Nat.le_refl _) (.inr ⟨Nat.le_refl _, by omega⟩)
  · exact lex_lt (S.onward_of_read h).le (.inr ⟨Nat.le_refl _, by omega⟩)
theorem local_readEntries (k v : WireType) (n : Nat) (es : List (Value × Value)) (c : Cursor) :
    Local (S.readEntries k v n es) c := by
  cases n with
  | zero => rw [readEntries_zero]; exact local_pure _
  | succ n =>
    rw [readEntries_succ]
    refine (local_read k c).bind fun key c₁ h₁ => ?_
    refine (local_read v c₁).bind fun value c₂ h₂ => ?_
    exact local_readEntries k v n _ c₂
termination_by (c.remaining, max (S.level k) (S.level v), n + 1)
decreasing_by
  · exact lex_lt (Nat.le_refl _) (.inr ⟨Nat.le_max_left .., by omega⟩)
  · exact lex_lt (S.onward_of_read h₁).le (.inr ⟨Nat.le_max_right .., by omega⟩)
  · exact lex_lt (Nat.le_trans (S.onward_of_read h₂).le (S.onward_of_read h₁).le)
      (.inr ⟨Nat.le_refl _, by omega⟩)
theorem local_readFields (fields : List Field) (c : Cursor) : Local (S.readFields fields) c := by
  cases fields with
  | nil => rw [readFields_nil]; exact local_pure _
  | cons f fs =>
    rw [readFields_cons]
    refine (local_read f.type c).bind fun v c' h => ?_
    exact (local_readFields fs c').bind fun _ _ _ => local_pure _
termination_by (c.remaining, S.height fields, fields.length + 1)
decreasing_by
  · exact lex_lt (Nat.le_refl _) (.inr ⟨level_le_height, by simp⟩)
  · exact lex_lt (S.onward_of_read h).le (.inr ⟨height_le_cons, by simp⟩)
end

/-- Whether or not reading fails, it gets somewhere on. -/
theorem onward_reached (t : WireType) (c : Cursor) : c.Onward (reached (S.read t c)) :=
  (S.decode t c).get.2

/-- On fewer bytes than a value takes, reading runs out of them. -/
theorem read_cut {t : WireType} {p n m : Nat} {bs : Bytes} {v : Value} {rest : Bytes}
    (h : S.read t ⟨p, bs⟩ = .ok v ⟨p + n, rest⟩) (hm : m < n) :
    ∃ needed c, S.read t ⟨p, bs.take m⟩ = .error (.truncated needed c.remaining) c := by
  have hwhole : Cursor.extend ⟨p, bs.take m⟩ (bs.drop m) = ⟨p, bs⟩ := by
    rw [Cursor.extend, List.take_append_drop]
  have hlocal := S.local_read t ⟨p, bs.take m⟩
  cases hcut : S.read t ⟨p, bs.take m⟩ with
  | ok v' c' =>
    -- it would be the same value on all the bytes, which ends further on
    have hok := hlocal.ok v' c' hcut (bs.drop m)
    rw [hwhole, h] at hok
    have hpos : p + n = c'.position :=
      congrArg Cursor.position (EStateM.Result.ok.inj hok).2
    obtain ⟨k, hk, hc'⟩ := S.onward_reached t ⟨p, bs.take m⟩
    rw [hcut] at hc'
    have hc' : c' = ⟨p + k, (bs.take m).drop k⟩ := hc'
    have hk : k ≤ (bs.take m).length := hk
    rw [hc'] at hpos
    rw [List.length_take] at hk
    have hpos : p + n = p + k := hpos
    omega
  | error e c' =>
    cases he : e.isTruncated with
    | false =>
      have herror := hlocal.error e c' hcut he (bs.drop m)
      rw [hwhole, h] at herror
      cases herror
    | true =>
      obtain ⟨needed, remaining, rfl⟩ := e.eq_truncated he
      obtain ⟨rfl, -, -⟩ := hlocal.truncated needed remaining c' hcut
      exact ⟨needed, c', rfl⟩

/-- What reading a type from a byte run says about shorter and longer runs, if it takes `n` bytes
before it ends. -/
structure Settled (t : WireType) (p : Nat) (bs : Bytes) (n : Nat) : Prop where
  bounded : n ≤ bs.length
  reached : reached (S.read t ⟨p, bs⟩) = ⟨p + n, bs.drop n⟩
  /-- A value is the same whatever follows, and on a part of its bytes it is told that some are
  missing. -/
  ok : ∀ v c, S.read t ⟨p, bs⟩ = .ok v c →
    (∀ more, S.read t ⟨p, bs ++ more⟩ = .ok v ⟨p + n, bs.drop n ++ more⟩) ∧
    ∀ m, m < n → ∃ needed c', S.read t ⟨p, bs.take m⟩ = .error (.truncated needed c'.remaining) c'
  /-- So is an error, as long as it is not that bytes are missing. -/
  error : ∀ e c, S.read t ⟨p, bs⟩ = .error e c → e.isTruncated = false →
    ∀ more, S.read t ⟨p, bs ++ more⟩ = .error e ⟨p + n, bs.drop n ++ more⟩
  /-- Missing bytes are missing until there are as many. -/
  truncated : ∀ needed remaining c, S.read t ⟨p, bs⟩ = .error (.truncated needed remaining) c →
    remaining = bs.length - n ∧ remaining < needed ∧
    ∀ more : Bytes, more.length < needed - remaining → S.read t ⟨p, bs ++ more⟩ =
      .error (.truncated needed (remaining + more.length)) ⟨p + n, bs.drop n ++ more⟩

/-- **Decoding depends on the bytes it takes and on nothing else**, for every type, from every
place and on every byte run. -/
theorem read_settled (t : WireType) (p : Nat) (bs : Bytes) : ∃ n, S.Settled t p bs n := by
  obtain ⟨n, hn, hreached⟩ := S.onward_reached t ⟨p, bs⟩
  have hreached : Reader.reached (S.read t ⟨p, bs⟩) = ⟨p + n, bs.drop n⟩ := hreached
  have hlocal := S.local_read t ⟨p, bs⟩
  refine ⟨n, hn, hreached, ?_, ?_, ?_⟩
  · intro v c h
    rw [h] at hreached
    obtain rfl : c = ⟨p + n, bs.drop n⟩ := hreached
    exact ⟨hlocal.ok v _ h, fun m hm => S.read_cut h hm⟩
  · intro e c h he
    rw [h] at hreached
    obtain rfl : c = ⟨p + n, bs.drop n⟩ := hreached
    exact hlocal.error e _ h he
  · intro needed remaining c h
    rw [h] at hreached
    obtain rfl : c = ⟨p + n, bs.drop n⟩ := hreached
    obtain ⟨hrem, hlt, hmore⟩ := hlocal.truncated needed remaining _ h
    exact ⟨hrem.trans List.length_drop, hlt, hmore⟩

end Schema

end CallBoundary
