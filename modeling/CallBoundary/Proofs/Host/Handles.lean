import Mathlib.Algebra.Group.Nat.Defs
import Mathlib.Data.List.Nodup
import CallBoundary.Host.HandleTable

/-!
# Which handles a table issues

A table finds what it issued a handle for and what it had before, and taking a handle out that it
issued gives back the entries it had (`entries_erase_insert`).  Handles are issued in order:
`handlesFrom` lists them, and no two of them are the same as long as the counter does not go round.
-/

namespace CallBoundary.Host

/-! ### Entries -/

namespace HandleTable

variable {t : HandleTable α} {h k : Handle}

@[simp] theorem next_insert (a : α) : (t.insert a).2.next = t.next + 1 := rfl

theorem find?_insert_self (a : α) : (t.insert a).2.find? t.next = some a := by
  simp [find?, insert]

theorem find?_erase_self (t : HandleTable α) (h : Handle) : (t.erase h).find? h = none := by
  refine List.lookup_eq_none_iff.2 ?_
  intro e he
  have hne : e.1 ≠ h := by simpa using (List.mem_filter.1 he).2
  simpa using hne.symm

theorem find?_erase_of_ne (hne : h ≠ k) : (t.erase k).find? h = t.find? h := by
  unfold find? erase
  induction t.entries with
  | nil => rfl
  | cons e es ih =>
    obtain ⟨k', a⟩ := e
    by_cases hk : k' = k
    · subst hk
      have hb : (h == k') = false := beq_eq_false_iff_ne.2 hne
      simp only [List.filter_cons, bne_self_eq_false, Bool.false_eq_true, if_false,
        List.lookup_cons, hb, ih]
    · simp only [List.filter_cons, bne_iff_ne, ne_eq, hk, not_false_eq_true, if_true,
        List.lookup_cons, ih]

theorem find?_insert_of_ne (a : α) (hne : h ≠ t.next) : (t.insert a).2.find? h = t.find? h := by
  have hb : (h == t.next) = false := by simpa using hne
  show List.lookup h ((t.next, a) :: (t.erase t.next).entries) = _
  rw [List.lookup_cons, hb]
  exact find?_erase_of_ne hne

/-- Nothing goes if the handle is not there. -/
theorem entries_erase_of_fresh (fresh : ∀ e ∈ t.entries, e.1 ≠ h) :
    (t.erase h).entries = t.entries := by
  refine List.filter_eq_self.2 ?_
  intro e he
  simpa using fresh e he

theorem entries_insert (a : α) (fresh : ∀ e ∈ t.entries, e.1 ≠ t.next) :
    (t.insert a).2.entries = (t.next, a) :: t.entries :=
  congrArg _ (entries_erase_of_fresh fresh)

theorem find?_of_cons {es : List (Handle × α)} {a : α} (he : t.entries = (h, a) :: es) :
    t.find? h = some a := by
  rw [find?, he, List.lookup_cons, beq_self_eq_true]

theorem entries_erase_of_cons {es : List (Handle × α)} {a : α} (he : t.entries = (h, a) :: es)
    (fresh : ∀ e ∈ es, e.1 ≠ h) : (t.erase h).entries = es := by
  show t.entries.filter (·.1 != h) = es
  rw [he, List.filter_cons, bne_self_eq_false, if_neg Bool.false_ne_true]
  exact entries_erase_of_fresh (t := { t with entries := es }) fresh

/-- A handle can come and go. -/
theorem entries_erase_insert (a : α) (fresh : ∀ e ∈ t.entries, e.1 ≠ t.next) :
    ((t.insert a).2.erase t.next).entries = t.entries :=
  entries_erase_of_cons (entries_insert a fresh) fresh

theorem remove_of_find? {a : α} (hf : t.find? h = some a) : t.remove h = (.ok a, t.erase h) := by
  rw [remove, get, hf]

theorem remove_of_none (hf : t.find? h = none) :
    t.remove h = (.error (.missingHandle h), t.erase h) := by
  rw [remove, get, hf]

end HandleTable

/-! ### The handles of some insertions -/

/-- The handles that a counter gives next. -/
def handlesFrom (next : Handle) (n : Nat) : List Handle :=
  (List.range n).map fun i => next + UInt64.ofNat i

@[simp] theorem length_handlesFrom (next : Handle) (n : Nat) :
    (handlesFrom next n).length = n := by
  simp [handlesFrom]

theorem handlesFrom_succ (next : Handle) (n : Nat) :
    handlesFrom next (n + 1) = handlesFrom next n ++ [next + UInt64.ofNat n] := by
  simp [handlesFrom, List.range_succ]

theorem next_succ (next : Handle) (n : Nat) :
    next + UInt64.ofNat n + 1 = next + UInt64.ofNat (n + 1) := by
  rw [UInt64.ofNat_add, UInt64.add_assoc]
  rfl

theorem mem_handlesFrom {next : Handle} {i n : Nat} (hi : i < n) :
    next + UInt64.ofNat i ∈ handlesFrom next n :=
  List.mem_map.2 ⟨i, List.mem_range.2 hi, rfl⟩

/-- Handles that no entry has are told apart from all entries. -/
theorem ne_of_fresh {next : Handle} {es : List (Handle × α)} {i n : Nat}
    (fresh : ∀ e ∈ es, e.1 ∉ handlesFrom next n) (hi : i < n) :
    ∀ e ∈ es, e.1 ≠ next + UInt64.ofNat i := by
  intro e he heq
  exact fresh e he (heq ▸ mem_handlesFrom hi)

theorem toNat_next (next : Handle) {i : Nat} (hi : next.toNat + i < 2 ^ 64) :
    (next + UInt64.ofNat i).toNat = next.toNat + i := by
  have hi' : i < 2 ^ 64 := by omega
  rw [UInt64.toNat_add, UInt64.toNat_ofNat_of_lt' hi', Nat.mod_eq_of_lt hi]

/-- Until the counter goes round, its handles are distinct. -/
theorem nodup_handlesFrom {next : Handle} {n : Nat} (hn : next.toNat + n ≤ 2 ^ 64) :
    (handlesFrom next n).Nodup := by
  refine List.Nodup.map_on ?_ List.nodup_range
  intro i hi j hj hij
  have hi := List.mem_range.1 hi
  have hj := List.mem_range.1 hj
  have h := congrArg UInt64.toNat hij
  rw [toNat_next next (by omega), toNat_next next (by omega)] at h
  omega

/-- Until the counter goes round, its handles are new. -/
theorem le_of_mem_handlesFrom {next : Handle} {n : Nat} (hn : next.toNat + n ≤ 2 ^ 64)
    {h : Handle} (hh : h ∈ handlesFrom next n) : next ≤ h := by
  obtain ⟨i, hi, rfl⟩ := List.mem_map.1 hh
  have hi := List.mem_range.1 hi
  rw [UInt64.le_iff_toNat_le, toNat_next next (by omega)]
  omega

namespace HandleTable

/-- Every entry has a handle that was issued before.  This is so of the empty table, and it stays so
as handles come and go, until the counter goes round. -/
def Sound (t : HandleTable α) : Prop := ∀ e ∈ t.entries, e.1 < t.next

theorem sound_empty : Sound ({} : HandleTable α) := by
  intro e he
  cases he

theorem Sound.insert {t : HandleTable α} (hs : t.Sound) (a : α)
    (hn : t.next.toNat + 1 < 2 ^ 64) : (t.insert a).2.Sound := by
  have hlt : t.next < t.next + 1 := by
    have h := toNat_next t.next (i := 1) hn
    rw [UInt64.lt_iff_toNat_lt]
    show _ < (t.next + UInt64.ofNat 1).toNat
    omega
  intro e he
  rcases List.mem_cons.1 he with rfl | he
  · exact hlt
  · exact UInt64.lt_trans (hs e (List.mem_filter.1 he).1) hlt

theorem Sound.remove {t : HandleTable α} (hs : t.Sound) (h : Handle) : (t.remove h).2.Sound := by
  intro e he
  exact hs e (List.mem_filter.1 he).1

/-- The handles that come next are in no entry. -/
theorem Sound.fresh {t : HandleTable α} (hs : t.Sound) {n : Nat}
    (hn : t.next.toNat + n ≤ 2 ^ 64) : ∀ e ∈ t.entries, e.1 ∉ handlesFrom t.next n := by
  intro e he hh
  exact absurd (hs e he) (UInt64.not_lt.2 (le_of_mem_handlesFrom hn hh))

/-- These are the handles that a table has issued since its counter was at a given one, up to
order. -/
structure Issued (start : Handle) (used : List Handle) (t : HandleTable α) : Prop where
  perm : used.Perm (handlesFrom start used.length)
  next_eq : t.next = start + UInt64.ofNat used.length

namespace Issued

variable {start : Handle} {used : List Handle} {t : HandleTable α}

theorem nil (t : HandleTable α) : Issued t.next [] t := by
  refine ⟨.refl _, ?_⟩
  simp

theorem insert (hi : Issued start used t) (a : α) :
    Issued start (t.next :: used) (t.insert a).2 := by
  refine ⟨?_, ?_⟩
  · rw [List.length_cons, handlesFrom_succ, ← hi.next_eq]
    exact (List.perm_append_singleton t.next used).symm.trans (hi.perm.append_right _)
  · rw [next_insert, hi.next_eq, List.length_cons, next_succ]

theorem of_perm {used' : List Handle} (hi : Issued start used t) (hp : used'.Perm used) :
    Issued start used' t := by
  refine ⟨?_, ?_⟩
  · rw [hp.length_eq]
    exact hp.trans hi.perm
  · rw [hp.length_eq]
    exact hi.next_eq

theorem of_next {t' : HandleTable α} (hi : Issued start used t) (hn : t'.next = t.next) :
    Issued start used t' :=
  ⟨hi.perm, hn.trans hi.next_eq⟩

/-- **No handle is issued twice**, until the counter goes round. -/
theorem nodup (hi : Issued start used t) (hn : start.toNat + used.length ≤ 2 ^ 64) :
    used.Nodup :=
  hi.perm.nodup_iff.2 (nodup_handlesFrom hn)

theorem le (hi : Issued start used t) (hn : start.toNat + used.length ≤ 2 ^ 64) {h : Handle}
    (hh : h ∈ used) : start ≤ h :=
  le_of_mem_handlesFrom hn (hi.perm.mem_iff.1 hh)

end Issued

end HandleTable

end CallBoundary.Host
