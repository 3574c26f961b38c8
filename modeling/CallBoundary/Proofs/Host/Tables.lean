import CallBoundary.Proofs.Host.Handles

/-!
# What a table answers

A table is used by calls, one after the other, and each call with its answer goes into a record.
From the record alone one can tell what the table holds: what was inserted and not removed
(`Held`).  Every answer is as the record says (`run_answers`), the handles issued are 1, 2, 3 and so
on, and nothing is handed out by two removals, as long as the counter does not go round.
-/

namespace CallBoundary.Host

/-! ### Calls and records -/

/-- A use of a table. -/
inductive TableCall (α : Type) where
  | insert (a : α)
  | tryGet (h : Handle)
  | get (h : Handle)
  | tryRemove (h : Handle)
  | remove (h : Handle)
  | contains (h : Handle)

/-- What a table answers. -/
inductive TableAnswer (α : Type) where
  | issued (h : Handle)
  | tried (r : Except InternalError α)
  | ended (r : Raising α)
  | told (b : Bool)

/-- Calls with their answers, oldest first. -/
abbrev TableRecord (α : Type) := List (TableCall α × TableAnswer α)

namespace HandleTable

/-- A call to a table. -/
def serve (t : HandleTable α) : TableCall α → TableAnswer α × HandleTable α
  | .insert a => (.issued (t.insert a).1, (t.insert a).2)
  | .tryGet h => (.tried (t.get h), t)
  | .get h => (.ended (t.getOrRaise h), t)
  | .tryRemove h => (.tried (t.remove h).1, (t.remove h).2)
  | .remove h => (.ended (t.removeOrRaise h).1, (t.removeOrRaise h).2)
  | .contains h => (.told (t.contains h), t)

/-- Calls to a table, one after the other. -/
def run (t : HandleTable α) : List (TableCall α) → TableRecord α × HandleTable α
  | [] => ([], t)
  | c :: cs => ((c, (t.serve c).1) :: ((t.serve c).2.run cs).1, ((t.serve c).2.run cs).2)

end HandleTable

/-- How many of some calls are insertions. -/
def insertions (cs : List (TableCall α)) : Nat :=
  cs.countP fun
    | .insert _ => true
    | _ => false

namespace TableRecord

/-- What was inserted, each object under the handle that was issued for it. -/
def inserted (r : TableRecord α) : List (Handle × α) :=
  r.filterMap fun
    | (.insert a, .issued h) => some (h, a)
    | _ => none

/-- What was handed out by removals, each object with the handle it was removed by. -/
def removed (r : TableRecord α) : List (Handle × α) :=
  r.filterMap fun
    | (.tryRemove h, .tried (.ok a)) => some (h, a)
    | (.remove h, .ended (.returned a)) => some (h, a)
    | _ => none

/-- The object that was inserted under a handle, if it was not removed. -/
def held (r : TableRecord α) (h : Handle) : Option α :=
  if h ∈ r.removed.map (·.1) then none else r.inserted.lookup h

/-- What is held under a handle, or the error that nothing is. -/
def holding (r : TableRecord α) (h : Handle) : Except InternalError α :=
  match r.held h with
  | some a => .ok a
  | none => .error (.missingHandle h)

/-- The answer that a record asks for. -/
def expected (r : TableRecord α) : TableCall α → TableAnswer α
  | .insert _ => .issued (UInt64.ofNat (r.inserted.length + 1))
  | .tryGet h | .tryRemove h => .tried (r.holding h)
  | .get h | .remove h => .ended (.ofInternal (r.holding h))
  | .contains h => .told (r.held h).isSome

section Append

variable (r r' : TableRecord α)

theorem inserted_append : inserted (r ++ r') = r.inserted ++ r'.inserted :=
  List.filterMap_append ..

theorem removed_append : removed (r ++ r') = r.removed ++ r'.removed :=
  List.filterMap_append ..

end Append

theorem held_some {r : TableRecord α} {h : Handle} {a : α} (hh : r.held h = some a) :
    h ∉ r.removed.map (·.1) ∧ (h, a) ∈ r.inserted := by
  unfold held at hh
  split at hh
  · cases hh
  · next hn =>
    obtain ⟨l₁, l₂, hl, -⟩ := List.lookup_eq_some_iff.1 hh
    rw [hl]
    exact ⟨hn, List.mem_append_right _ List.mem_cons_self⟩

end TableRecord

/-! ### Missing handles -/

namespace HandleTable

variable {t : HandleTable α} {h : Handle}

/-- Nothing goes if nothing is there. -/
theorem erase_of_missing (hf : t.find? h = none) : t.erase h = t := by
  have hfresh : ∀ e ∈ t.entries, e.1 ≠ h := by
    intro e he
    have hne := List.lookup_eq_none_iff.1 hf e he
    exact fun heq => by simp [heq] at hne
  have hentries := entries_erase_of_fresh hfresh
  cases t
  simpa [erase] using hentries

/-- One entry goes if no two are of one handle. -/
theorem size_erase {a : α} (keys : (t.entries.map (·.1)).Nodup) (hf : t.find? h = some a) :
    (t.erase h).size + 1 = t.size := by
  obtain ⟨l₁, l₂, hl, hne⟩ := List.lookup_eq_some_iff.1 hf
  have hbefore : ∀ e ∈ l₁, (e.1 != h) = true := by
    intro e he
    exact bne_iff_ne.2 (bne_iff_ne.1 (hne e he)).symm
  have hafter : ∀ e ∈ l₂, (e.1 != h) = true := by
    rw [hl, List.map_append, List.map_cons, List.nodup_append] at keys
    have hnot : h ∉ l₂.map (·.1) := (List.nodup_cons.1 keys.2.1).1
    intro e he
    have hmem := List.mem_map_of_mem (f := (·.1)) he
    exact bne_iff_ne.2 fun heq => hnot (heq ▸ hmem)
  show (t.entries.filter (·.1 != h)).length + 1 = t.entries.length
  rw [hl, List.filter_append, List.filter_cons, bne_self_eq_false, if_neg Bool.false_ne_true,
    List.filter_eq_self.2 hbefore, List.filter_eq_self.2 hafter]
  simp only [List.length_append, List.length_cons]
  omega

end HandleTable

theorem one_add_ofNat (n : Nat) : (1 : Handle) + UInt64.ofNat n = UInt64.ofNat (n + 1) := by
  rw [UInt64.ofNat_add, UInt64.add_comm]
  rfl

/-! ### What is kept -/

/-- A table is as a record says. -/
structure Tracks (r : TableRecord α) (t : HandleTable α) : Prop where
  issued : r.inserted.map (·.1) = handlesFrom 1 r.inserted.length
  next_eq : t.next = 1 + UInt64.ofNat r.inserted.length
  find : ∀ h, t.find? h = r.held h
  sound : t.Sound
  keys : (t.entries.map (·.1)).Nodup
  once : (r.removed.map (·.1)).Nodup
  origin : ∀ p ∈ r.removed, p ∈ r.inserted
  size : t.size + r.removed.length = r.inserted.length

namespace Tracks

variable {r r' : TableRecord α} {t : HandleTable α} {h : Handle} {a : α}

theorem nil : Tracks ([] : TableRecord α) {} where
  issued := rfl
  next_eq := rfl
  find _ := rfl
  sound := HandleTable.sound_empty
  keys := List.nodup_nil
  once := List.nodup_nil
  origin _ hp := hp
  size := rfl

/-- A call that neither inserts nor removes does not matter. -/
theorem quiet (ht : Tracks r t) {e : TableCall α × TableAnswer α}
    (hi : TableRecord.inserted [e] = []) (hr : TableRecord.removed [e] = []) :
    Tracks (r ++ [e]) t := by
  have hi' : TableRecord.inserted (r ++ [e]) = r.inserted := by
    rw [TableRecord.inserted_append, hi, List.append_nil]
  have hr' : TableRecord.removed (r ++ [e]) = r.removed := by
    rw [TableRecord.removed_append, hr, List.append_nil]
  have hheld : TableRecord.held (r ++ [e]) = r.held := by
    funext h
    unfold TableRecord.held
    rw [hi', hr']
  constructor
  · rw [hi']
    exact ht.issued
  · rw [hi']
    exact ht.next_eq
  · rw [hheld]
    exact ht.find
  · exact ht.sound
  · exact ht.keys
  · rw [hr']
    exact ht.once
  · rw [hi', hr']
    exact ht.origin
  · rw [hi', hr']
    exact ht.size

/-- The next handle is a new one. -/
theorem fresh (ht : Tracks r t) (hn : r.inserted.length + 2 ≤ 2 ^ 64) :
    t.next ∉ r.inserted.map (·.1) := by
  have hnodup : (handlesFrom 1 (r.inserted.length + 1)).Nodup := by
    refine nodup_handlesFrom ?_
    show 1 + (r.inserted.length + 1) ≤ 2 ^ 64
    omega
  rw [handlesFrom_succ, ← ht.issued, ← ht.next_eq, List.nodup_append] at hnodup
  intro hmem
  exact hnodup.2.2 _ hmem _ (List.mem_singleton_self _) rfl

theorem insert (ht : Tracks r t) (hn : r.inserted.length + 2 < 2 ^ 64)
    (hi : r'.inserted = r.inserted ++ [(t.next, a)]) (hr : r'.removed = r.removed) :
    Tracks r' (t.insert a).2 := by
  have hfresh : t.next ∉ r.inserted.map (·.1) := ht.fresh (by omega)
  have hentries : (t.insert a).2.entries = (t.next, a) :: t.entries := by
    refine HandleTable.entries_insert a ?_
    intro e he heq
    exact absurd (heq ▸ ht.sound e he) (UInt64.lt_irrefl _)
  have hlen : r'.inserted.length = r.inserted.length + 1 := by
    rw [hi, List.length_append, List.length_singleton]
  constructor
  · rw [hlen, handlesFrom_succ, hi, List.map_append, ht.issued, ← ht.next_eq]
    rfl
  · rw [HandleTable.next_insert, ht.next_eq, hlen, next_succ]
  · intro h
    unfold TableRecord.held
    rw [hi, hr, List.lookup_append]
    by_cases hh : h = t.next
    · -- nothing was inserted under the next handle, and so nothing removed
      have hnone : r.inserted.lookup t.next = none := by
        refine List.lookup_eq_none_iff.2 ?_
        intro p hp
        have hne : p.1 ≠ t.next := fun heq => hfresh (heq ▸ List.mem_map_of_mem (f := (·.1)) hp)
        simpa using hne.symm
      have hgone : t.next ∉ r.removed.map (·.1) := by
        intro hmem
        obtain ⟨p, hp, hpn⟩ := List.mem_map.1 hmem
        exact hfresh (hpn ▸ List.mem_map_of_mem (f := (·.1)) (ht.origin p hp))
      rw [hh, HandleTable.find?_insert_self, if_neg hgone, hnone]
      simp
    · have hother : List.lookup h [(t.next, a)] = none := by
        rw [List.lookup_cons, beq_eq_false_iff_ne.2 hh]
        rfl
      rw [HandleTable.find?_insert_of_ne a hh, ht.find h, hother, Option.or_none]
      rfl
  · refine ht.sound.insert a ?_
    rw [ht.next_eq, toNat_next 1 (by show 1 + _ < _; omega)]
    show 1 + _ + 1 < _
    omega
  · rw [hentries, List.map_cons]
    refine List.nodup_cons.2 ⟨?_, ht.keys⟩
    intro hmem
    obtain ⟨e, he, heq⟩ := List.mem_map.1 hmem
    exact absurd (heq ▸ ht.sound e he) (UInt64.lt_irrefl _)
  · rw [hr]
    exact ht.once
  · rw [hr, hi]
    intro p hp
    exact List.mem_append_left _ (ht.origin p hp)
  · have hs := ht.size
    rw [hr, hlen, ← hs]
    show (t.insert a).2.entries.length + _ = t.entries.length + _ + 1
    rw [hentries, List.length_cons]
    omega

theorem remove (ht : Tracks r t) (hf : t.find? h = some a) (hi : r'.inserted = r.inserted)
    (hr : r'.removed = r.removed ++ [(h, a)]) : Tracks r' (t.erase h) := by
  obtain ⟨hnot, hmem⟩ := TableRecord.held_some ((ht.find h).symm.trans hf)
  have hkeys : r'.removed.map (·.1) = r.removed.map (·.1) ++ [h] := by
    rw [hr, List.map_append]
    rfl
  constructor
  · rw [hi]
    exact ht.issued
  · rw [hi]
    exact ht.next_eq
  · intro k
    unfold TableRecord.held
    rw [hi, hkeys]
    by_cases hk : k = h
    · have hmem : k ∈ r.removed.map (·.1) ++ [h] :=
        List.mem_append_right _ (List.mem_singleton.2 hk)
      rw [if_pos hmem, hk, HandleTable.find?_erase_self]
    · have hiff : k ∈ r.removed.map (·.1) ++ [h] ↔ k ∈ r.removed.map (·.1) := by
        rw [List.mem_append, List.mem_singleton, or_iff_left hk]
      rw [HandleTable.find?_erase_of_ne hk, ht.find k, TableRecord.held]
      simp only [hiff]
  · exact ht.sound.remove h
  · exact ht.keys.sublist (List.filter_sublist.map _)
  · rw [hkeys]
    exact ht.once.append (List.nodup_singleton h) (by simpa using hnot)
  · rw [hr, hi]
    intro p hp
    rcases List.mem_append.1 hp with hp | hp
    · exact ht.origin p hp
    · exact List.mem_singleton.1 hp ▸ hmem
  · have hs := ht.size
    have herase := HandleTable.size_erase ht.keys hf
    rw [hi, hr, List.length_append, List.length_singleton]
    omega

/-- **The answer is as the record says.** -/
theorem answer (ht : Tracks r t) (c : TableCall α) : (t.serve c).1 = r.expected c := by
  have hget : ∀ h, t.get h = r.holding h := by
    intro h
    cases hh : r.held h with
    | none => simp only [HandleTable.get, TableRecord.holding, ht.find h, hh]
    | some a => simp only [HandleTable.get, TableRecord.holding, ht.find h, hh]
  have hremove : ∀ h, (t.remove h).1 = r.holding h := hget
  cases c with
  | insert a =>
    have hnext : t.next = UInt64.ofNat (r.inserted.length + 1) :=
      ht.next_eq.trans (one_add_ofNat _)
    exact congrArg TableAnswer.issued hnext
  | tryGet h => exact congrArg TableAnswer.tried (hget h)
  | get h => exact congrArg (TableAnswer.ended ∘ Raising.ofInternal) (hget h)
  | tryRemove h => exact congrArg TableAnswer.tried (hremove h)
  | remove h => exact congrArg (TableAnswer.ended ∘ Raising.ofInternal) (hremove h)
  | contains h => exact congrArg (TableAnswer.told ∘ Option.isSome) (ht.find h)

/-- One call keeps the table as the record says. -/
theorem serve (ht : Tracks r t) (c : TableCall α)
    (hn : r.inserted.length + insertions [c] < 2 ^ 64 - 1) :
    Tracks (r ++ [(c, (t.serve c).1)]) (t.serve c).2 := by
  cases c with
  | insert a =>
    have hn : r.inserted.length + 1 < 2 ^ 64 - 1 := hn
    have hr := TableRecord.removed_append r [(.insert a, .issued t.next)]
    exact ht.insert (by omega) (TableRecord.inserted_append ..) (hr.trans (List.append_nil _))
  | tryGet h => exact ht.quiet rfl rfl
  | get h => exact ht.quiet rfl rfl
  | tryRemove h =>
    cases hf : t.find? h with
    | none =>
      have hs : t.serve (.tryRemove h) = (.tried (.error (.missingHandle h)), t) := by
        rw [HandleTable.serve, HandleTable.remove_of_none hf, HandleTable.erase_of_missing hf]
      rw [hs]
      exact ht.quiet rfl rfl
    | some a =>
      have hs : t.serve (.tryRemove h) = (.tried (.ok a), t.erase h) := by
        rw [HandleTable.serve, HandleTable.remove_of_find? hf]
      have hi := TableRecord.inserted_append r [(.tryRemove h, .tried (.ok a))]
      rw [hs]
      exact ht.remove hf (hi.trans (List.append_nil _)) (TableRecord.removed_append ..)
  | remove h =>
    cases hf : t.find? h with
    | none =>
      have hs : t.serve (.remove h) = (.ended (.raised (.missingHandle h)), t) := by
        rw [HandleTable.serve, HandleTable.removeOrRaise, HandleTable.remove_of_none hf,
          HandleTable.erase_of_missing hf]
        rfl
      rw [hs]
      exact ht.quiet rfl rfl
    | some a =>
      have hs : t.serve (.remove h) = (.ended (.returned a), t.erase h) := by
        rw [HandleTable.serve, HandleTable.removeOrRaise, HandleTable.remove_of_find? hf]
        rfl
      have hi := TableRecord.inserted_append r [(.remove h, .ended (.returned a))]
      rw [hs]
      exact ht.remove hf (hi.trans (List.append_nil _)) (TableRecord.removed_append ..)
  | contains h => exact ht.quiet rfl rfl

/-- A call that neither inserts nor removes changes nothing, whether it fails or not. -/
theorem untouched (ht : Tracks r t) (c : TableCall α)
    (hi : TableRecord.inserted [(c, r.expected c)] = [])
    (hr : TableRecord.removed [(c, r.expected c)] = []) : (t.serve c).2 = t := by
  have herase : ∀ h, (∀ a, r.holding h ≠ .ok a) → t.erase h = t := by
    intro h hh
    refine HandleTable.erase_of_missing ?_
    rw [ht.find h]
    cases hheld : r.held h with
    | none => rfl
    | some a => exact absurd (by rw [TableRecord.holding, hheld]) (hh a)
  cases c with
  | insert a => cases hi
  | tryGet h => rfl
  | get h => rfl
  | tryRemove h =>
    refine herase h ?_
    intro a ha
    rw [TableRecord.expected, ha] at hr
    cases hr
  | remove h =>
    refine herase h ?_
    intro a ha
    rw [TableRecord.expected, ha] at hr
    cases hr
  | contains h => rfl

end Tracks

/-- As many objects are inserted as there are insertions. -/
theorem length_inserted_serve (t : HandleTable α) (c : TableCall α) :
    (TableRecord.inserted [(c, (t.serve c).1)]).length = insertions [c] := by
  cases c <;> rfl

theorem insertions_cons (c : TableCall α) (cs : List (TableCall α)) :
    insertions (c :: cs) = insertions [c] + insertions cs := by
  unfold insertions
  rw [← List.singleton_append, List.countP_append]

theorem length_inserted_run (t : HandleTable α) (cs : List (TableCall α)) :
    (t.run cs).1.inserted.length = insertions cs := by
  induction cs generalizing t with
  | nil => rfl
  | cons c cs ih =>
    have hsplit := TableRecord.inserted_append [(c, (t.serve c).1)] ((t.serve c).2.run cs).1
    rw [insertions_cons, ← length_inserted_serve t c, ← ih (t.serve c).2, ← List.length_append,
      ← hsplit]
    rfl

/-- Calls in a row keep the table as the record says. -/
theorem Tracks.run {r : TableRecord α} {t : HandleTable α} (ht : Tracks r t)
    (cs : List (TableCall α)) (hn : r.inserted.length + insertions cs < 2 ^ 64 - 1) :
    Tracks (r ++ (t.run cs).1) (t.run cs).2 := by
  induction cs generalizing r t with
  | nil =>
    rw [HandleTable.run, List.append_nil]
    exact ht
  | cons c cs ih =>
    rw [insertions_cons] at hn
    have hserve := ht.serve c (by omega)
    have hlen : (TableRecord.inserted (r ++ [(c, (t.serve c).1)])).length =
        r.inserted.length + insertions [c] := by
      rw [TableRecord.inserted_append, List.length_append, length_inserted_serve]
    have hrest := ih hserve (by omega)
    rw [List.append_assoc] at hrest
    exact hrest

/-- Each answer of a run is the answer of the table that the calls before it left. -/
theorem run_split {t : HandleTable α} {cs : List (TableCall α)} {before after : TableRecord α}
    {e : TableCall α × TableAnswer α} (h : (t.run cs).1 = before ++ e :: after) :
    ∃ cs₁ cs₂, cs = cs₁ ++ e.1 :: cs₂ ∧ (t.run cs₁).1 = before ∧
      e.2 = ((t.run cs₁).2.serve e.1).1 := by
  induction before generalizing t cs with
  | nil =>
    cases cs with
    | nil => cases h
    | cons c cs =>
      obtain ⟨rfl, -⟩ := List.cons.inj h
      exact ⟨[], cs, rfl, rfl, rfl⟩
  | cons b before ih =>
    cases cs with
    | nil => cases h
    | cons c cs =>
      have h : (c, (t.serve c).1) :: ((t.serve c).2.run cs).1 = b :: (before ++ e :: after) := h
      obtain ⟨rfl, hrest⟩ := List.cons.inj h
      obtain ⟨cs₁, cs₂, rfl, rfl, he⟩ := ih hrest
      exact ⟨c :: cs₁, cs₂, rfl, rfl, he⟩

/-- **A table answers as a map would**, whatever the calls: each insertion issues the next handle,
and what is held under a handle is what was inserted under it, until it is removed. -/
theorem run_answers (cs : List (TableCall α)) (few : insertions cs < 2 ^ 64 - 1) :
    let (r, t) := ({} : HandleTable α).run cs
    (∀ (before : TableRecord α) c a after, r = before ++ (c, a) :: after →
        a = before.expected c) ∧
      r.inserted.map (·.1) = (List.range (insertions cs)).map (fun k => UInt64.ofNat (k + 1)) ∧
      (r.inserted.map (·.1)).Nodup ∧ 0 ∉ r.inserted.map (·.1) ∧
      (r.removed.map (·.1)).Nodup ∧ (∀ p ∈ r.removed, p ∈ r.inserted) ∧
      t.size + r.removed.length = insertions cs ∧
      ∀ c, TableRecord.inserted [(c, r.expected c)] = [] →
        TableRecord.removed [(c, r.expected c)] = [] → (t.serve c).2 = t := by
  have hrun : ∀ cs' : List (TableCall α), insertions cs' < 2 ^ 64 - 1 →
      Tracks (({} : HandleTable α).run cs').1 (({} : HandleTable α).run cs').2 := by
    intro cs' hn
    have hn : (TableRecord.inserted ([] : TableRecord α)).length + insertions cs' < 2 ^ 64 - 1 := by
      show 0 + _ < _
      omega
    exact Tracks.nil.run cs' hn
  have ht := hrun cs few
  have hlen := length_inserted_run ({} : HandleTable α) cs
  have hissued := ht.issued
  rw [hlen] at hissued
  have hbound : (1 : Handle).toNat + insertions cs ≤ 2 ^ 64 := by
    show 1 + _ ≤ _
    omega
  refine ⟨?_, ?_, ?_, ?_, ht.once, ht.origin, ht.size.trans hlen, ht.untouched⟩
  · intro before c a after hsplit
    obtain ⟨cs₁, cs₂, rfl, hbefore, ha⟩ := run_split hsplit
    have hfew : insertions cs₁ < 2 ^ 64 - 1 := by
      unfold insertions at few ⊢
      rw [List.countP_append] at few
      omega
    have ha : a = _ := ha
    rw [ha, (hrun cs₁ hfew).answer c, hbefore]
  · rw [hissued]
    refine List.map_congr_left ?_
    intro k _
    exact one_add_ofNat k
  · rw [hissued]
    exact nodup_handlesFrom hbound
  · rw [hissued]
    intro hzero
    exact absurd (le_of_mem_handlesFrom hbound hzero) (by decide)

/-- A handle that was removed is missing, and is not issued again. -/
theorem run_answers_removed :
    let cs : List (TableCall String) := [.insert "a", .tryRemove 1, .tryRemove 1, .insert "b"]
    let (r, t) := ({} : HandleTable String).run cs
    r.inserted.map (·.1) = [1, 2] ∧ t.size + r.removed.length = 2 := by
  intro cs
  have few : insertions cs < 2 ^ 64 - 1 := by decide
  obtain ⟨-, hissued, -, -, -, -, hsize, -⟩ := run_answers cs few
  exact ⟨hissued, hsize⟩

end CallBoundary.Host
