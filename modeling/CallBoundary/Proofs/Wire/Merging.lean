import CallBoundary.Proofs.Wire.WellFormed

/-!
# Several entries with one key

The entries of a map come one after the other, and nothing keeps a key from coming more than once;
then the last of its entries is the one that counts.  `merged v` is what `v` stands for if it is
taken as a spelling: the same value, with one entry for each key in every map, at any depth.

Merging entries changes no type, makes nothing longer and leaves each key once (`merging`), and where
each key is there once already it changes nothing at all (`merged_of_keyed`).
-/

namespace CallBoundary.Value

/-! ### Putting entries into a map -/

/-- The entries of a map after these have been put into it, one after the other. -/
def gather (m es : List (Value × Value)) : List (Value × Value) :=
  es.foldl (fun m e => insert e.1 e.2 m) m

theorem gather_cons (m es : List (Value × Value)) (e : Value × Value) :
    gather m (e :: es) = gather (insert e.1 e.2 m) es := rfl

theorem ofEntries_eq (es : List (Value × Value)) : ofEntries es = map (gather [] es) := rfl

section Insert

variable {k v : Value} {m es : List (Value × Value)}

theorem mem_of_mem_insert {e : Value × Value} (h : e ∈ insert k v m) : e = (k, v) ∨ e ∈ m := by
  induction m with
  | nil => exact .inl (List.mem_singleton.1 h)
  | cons d m ih =>
    rw [insert] at h
    split at h
    · rcases List.mem_cons.1 h with rfl | h
      · exact .inl rfl
      · exact .inr (.tail _ h)
    · rcases List.mem_cons.1 h with rfl | h
      · exact .inr (.head _)
      · exact (ih h).imp id (.tail _)

/-- Whatever is in the map in the end was there before or has been put into it. -/
theorem mem_of_mem_gather {e : Value × Value} (h : e ∈ gather m es) : e ∈ m ∨ e ∈ es := by
  induction es generalizing m with
  | nil => exact .inl h
  | cons d es ih =>
    rcases ih h with h | h
    · rcases mem_of_mem_insert h with rfl | h
      · exact .inr (.head _)
      · exact .inl h
    · exact .inr (.tail _ h)

theorem nodup_insert (h : (keys m).Nodup) : (keys (insert k v m)).Nodup := by
  induction m with
  | nil => simp [insert, keys]
  | cons d m ih =>
    obtain ⟨hd, hm⟩ := List.nodup_cons.1 h
    rw [insert]
    split
    · next hk => exact hk ▸ h
    · next hk =>
      refine List.nodup_cons.2 ⟨fun hmem => ?_, ih hm⟩
      obtain ⟨e, he, hkey⟩ := List.mem_map.1 hmem
      rcases mem_of_mem_insert he with rfl | he
      · exact hk hkey.symm
      · exact hd (hkey ▸ List.mem_map_of_mem he)

theorem nodup_gather (h : (keys m).Nodup) : (keys (gather m es)).Nodup := by
  induction es generalizing m with
  | nil => exact h
  | cons d es ih => exact ih (nodup_insert h)

theorem length_insert_le : (insert k v m).length ≤ m.length + 1 := by
  induction m with
  | nil => exact Nat.le_refl _
  | cons d m ih =>
    rw [insert]
    split
    · exact Nat.le_succ _
    · exact Nat.succ_le_succ ih

theorem length_gather_le : (gather m es).length ≤ m.length + es.length := by
  induction es generalizing m with
  | nil => exact Nat.le_refl _
  | cons d es ih =>
    have h := ih (m := insert d.1 d.2 m)
    have hd := length_insert_le (k := d.1) (v := d.2) (m := m)
    rw [gather_cons, List.length_cons]
    omega

theorem entriesLength_insert_le :
    entriesLength (insert k v m) ≤ entriesLength m + (encodedLength k + encodedLength v) := by
  induction m with
  | nil => simp [insert, entriesLength]
  | cons d m ih =>
    rw [insert]
    split
    · simp only [entriesLength]
      omega
    · simp only [entriesLength]
      omega

theorem entriesLength_gather_le :
    entriesLength (gather m es) ≤ entriesLength m + entriesLength es := by
  induction es generalizing m with
  | nil => exact Nat.le_refl _
  | cons d es ih =>
    have h := ih (m := insert d.1 d.2 m)
    have hd := entriesLength_insert_le (k := d.1) (v := d.2) (m := m)
    rw [gather_cons, entriesLength]
    omega

theorem lookup_append (key : Value) (m es : List (Value × Value)) :
    lookup key (m ++ es) = (lookup key m).or (lookup key es) := by
  induction m with
  | nil => rfl
  | cons d m ih =>
    rw [List.cons_append, lookup, lookup, ih]
    split <;> rfl

/-- **The last entry of a key counts**, of those put into a map and those that were there. -/
theorem lookup_gather (key : Value) :
    lookup key (gather m es) = lookup key (es.reverse ++ m) := by
  induction es generalizing m with
  | nil => rfl
  | cons d es ih =>
    rw [gather_cons, ih, lookup_append, lookup_insert, List.reverse_cons, List.append_assoc,
      lookup_append]
    rfl

/-- Entries whose keys are new go to the end of a map one after the other. -/
theorem insert_of_notMem (h : k ∉ keys m) : insert k v m = m ++ [(k, v)] := by
  induction m with
  | nil => rfl
  | cons e m ih =>
    simp only [keys, List.map_cons, List.mem_cons, not_or] at h
    rw [insert, if_neg (Ne.symm h.1), ih h.2]
    rfl

theorem gather_of_nodup (h : (keys (m ++ es)).Nodup) : gather m es = m ++ es := by
  induction es generalizing m with
  | nil => exact (List.append_nil m).symm
  | cons d es ih =>
    have hd : d.1 ∉ keys m := by
      intro hm
      simp only [keys, List.map_append, List.map_cons] at h hm
      exact (List.nodup_append.1 h).2.2 _ hm _ (.head _) rfl
    have hassoc : m ++ [d] ++ es = m ++ d :: es := List.append_assoc m [d] es
    rw [gather_cons, insert_of_notMem hd, ih (by rwa [hassoc]), hassoc]

end Insert

/-! ### Each entry -/

section Entries

variable {es : List (Value × Value)}

theorem entriesFit_iff : entriesFit es = true ↔ ∀ e ∈ es, e.1.fits = true ∧ e.2.fits = true := by
  induction es with
  | nil => simp [entriesFit]
  | cons d es ih => simp [entriesFit, ih]

theorem entriesKeyed_iff :
    entriesKeyed es = true ↔ ∀ e ∈ es, e.1.keyed = true ∧ e.2.keyed = true := by
  induction es with
  | nil => simp [entriesKeyed]
  | cons d es ih => simp [entriesKeyed, ih]

theorem entriesHaveType_iff {S : Schema} {k v : WireType} : entriesHaveType S k v es = true ↔
    ∀ e ∈ es, hasType S k e.1 = true ∧ hasType S v e.2 = true := by
  induction es with
  | nil => simp [entriesHaveType]
  | cons d es ih => simp [entriesHaveType, ih]

end Entries

/-! ### Merging -/

mutual
/-- A value with one entry for each key, the last of them, in every map. -/
def merged : Value → Value
  | present v => present (merged v)
  | sequence vs => sequence (allMerged vs)
  | map es => ofEntries (entriesMerged es)
  | record vs => record (allMerged vs)
  | variant tag vs => variant tag (allMerged vs)
  | v => v
/-- The same of each of some values. -/
def allMerged : List Value → List Value
  | [] => []
  | v :: vs => merged v :: allMerged vs
/-- The same of the key and the value of each of some entries, which all stay. -/
def entriesMerged : List (Value × Value) → List (Value × Value)
  | [] => []
  | e :: es => (merged e.1, merged e.2) :: entriesMerged es
end

/-- What becomes of a value when its entries are merged: it is of the same types, not longer, in
bounds as before, and has each key once. -/
structure Merging (v w : Value) : Prop where
  length : w.encodedLength ≤ v.encodedLength
  fits : v.fits = true → w.fits = true
  keyed : w.keyed = true
  type : ∀ S t, v.hasType S t = true → w.hasType S t = true

/-- The same of some values together. -/
structure AllMerging (vs ws : List Value) : Prop where
  count : ws.length = vs.length
  length : allLength ws ≤ allLength vs
  fits : allFit vs = true → allFit ws = true
  keyed : allKeyed ws = true
  type : ∀ S t, allHaveType S t vs = true → allHaveType S t ws = true
  fields : ∀ S fs, fieldsHaveType S fs vs = true → fieldsHaveType S fs ws = true

/-- The same of some entries together, before they are put into a map. -/
structure EntriesMerging (es fs : List (Value × Value)) : Prop where
  count : fs.length = es.length
  length : entriesLength fs ≤ entriesLength es
  fits : entriesFit es = true → entriesFit fs = true
  keyed : entriesKeyed fs = true
  type : ∀ S k v, entriesHaveType S k v es = true → entriesHaveType S k v fs = true

/-- Putting entries into a map keeps what holds of all of them, and each key is there once. -/
theorem EntriesMerging.gathered {es fs : List (Value × Value)} (h : EntriesMerging es fs) :
    Merging (map es) (ofEntries fs) := by
  have hmem : ∀ e ∈ gather [] fs, e ∈ fs := fun e he => (mem_of_mem_gather he).resolve_left nofun
  have hcount : (gather [] fs).length ≤ 0 + fs.length := length_gather_le
  have hlength : entriesLength (gather [] fs) ≤ entriesLength [] + entriesLength fs :=
    entriesLength_gather_le
  rw [h.count, Nat.zero_add] at hcount
  rw [entriesLength, Nat.zero_add] at hlength
  rw [ofEntries_eq]
  constructor
  · simp only [encodedLength]
    exact Nat.add_le_add_left (Nat.le_trans hlength h.length) 4
  · intro hf
    simp only [Value.fits, Bool.and_eq_true, decide_eq_true_eq] at hf ⊢
    refine ⟨Nat.le_trans hcount hf.1, entriesFit_iff.2 fun e he => ?_⟩
    exact entriesFit_iff.1 (h.fits hf.2) e (hmem e he)
  · simp only [Value.keyed, Bool.and_eq_true, decide_eq_true_eq]
    refine ⟨nodup_gather (by simp [Value.keys]), entriesKeyed_iff.2 fun e he => ?_⟩
    exact entriesKeyed_iff.1 h.keyed e (hmem e he)
  · intro S t ht
    cases t <;> simp only [hasType, Bool.false_eq_true] at ht
    exact entriesHaveType_iff.2 fun e he => entriesHaveType_iff.1 (h.type S _ _ ht) e (hmem e he)

mutual
/-- **Merging entries** changes no type, makes nothing longer and leaves each key once. -/
theorem merging : ∀ v : Value, Merging v v.merged
  | unit | .bool _ | .scalar _ | .text _ | .bytes _ | absent =>
    ⟨Nat.le_refl _, id, rfl, fun _ _ => id⟩
  | present v => by
    have m := merging v
    constructor
    · simpa only [merged, encodedLength, Nat.add_le_add_iff_left] using m.length
    · simpa only [merged, fits] using m.fits
    · simpa only [merged, keyed] using m.keyed
    · intro S t
      cases t <;> simp only [merged, hasType, Bool.false_eq_true, false_imp_iff]
      exact m.type S _
  | sequence vs => by
    have m := allMerging vs
    constructor
    · simpa only [merged, encodedLength, Nat.add_le_add_iff_left] using m.length
    · simp only [merged, fits, m.count, Bool.and_eq_true]
      exact And.imp_right m.fits
    · simpa only [merged, keyed] using m.keyed
    · intro S t
      cases t <;> simp only [merged, hasType, Bool.false_eq_true, false_imp_iff]
      exact m.type S _
  | map es => by
    rw [merged]
    exact (entriesMerging es).gathered
  | record vs => by
    have m := allMerging vs
    constructor
    · simpa only [merged, encodedLength] using m.length
    · simpa only [merged, fits] using m.fits
    · simpa only [merged, keyed] using m.keyed
    · intro S t
      cases t <;> simp only [merged, hasType, Bool.false_eq_true, false_imp_iff]
      split
      · exact m.fields S _
      · exact nofun
  | variant tag vs => by
    have m := allMerging vs
    constructor
    · simpa only [merged, encodedLength, Nat.add_le_add_iff_left] using m.length
    · simpa only [merged, fits] using m.fits
    · simpa only [merged, keyed] using m.keyed
    · intro S t
      cases t <;> simp only [merged, hasType, Bool.false_eq_true, false_imp_iff]
      split
      · exact nofun
      · split
        · exact m.fields S _
        · exact nofun
theorem allMerging : ∀ vs : List Value, AllMerging vs (allMerged vs)
  | [] => ⟨rfl, Nat.le_refl _, id, rfl, fun _ _ => id, fun _ _ => id⟩
  | v :: vs => by
    have m := merging v
    have ms := allMerging vs
    constructor
    · simp only [allMerged, List.length_cons, ms.count]
    · simpa only [allMerged, allLength] using Nat.add_le_add m.length ms.length
    · simp only [allMerged, allFit, Bool.and_eq_true]
      exact And.imp m.fits ms.fits
    · simp only [allMerged, allKeyed, m.keyed, ms.keyed, Bool.and_self]
    · intro S t
      simp only [allMerged, allHaveType, Bool.and_eq_true]
      exact And.imp (m.type S t) (ms.type S t)
    · intro S fs
      cases fs with
      | nil => exact nofun
      | cons f fs =>
        simp only [allMerged, fieldsHaveType, Bool.and_eq_true]
        exact And.imp (m.type S f.type) (ms.fields S fs)
theorem entriesMerging : ∀ es : List (Value × Value), EntriesMerging es (entriesMerged es)
  | [] => ⟨rfl, Nat.le_refl _, id, rfl, fun _ _ _ => id⟩
  | e :: es => by
    have mk := merging e.1
    have mv := merging e.2
    have ms := entriesMerging es
    constructor
    · simp only [entriesMerged, List.length_cons, ms.count]
    · simpa only [entriesMerged, entriesLength] using
        Nat.add_le_add (Nat.add_le_add mk.length mv.length) ms.length
    · simp only [entriesMerged, entriesFit, Bool.and_eq_true]
      exact And.imp (And.imp mk.fits mv.fits) ms.fits
    · simp only [entriesMerged, entriesKeyed, mk.keyed, mv.keyed, ms.keyed, Bool.and_self]
    · intro S k v
      simp only [entriesMerged, entriesHaveType, Bool.and_eq_true]
      exact And.imp (And.imp (mk.type S k) (mv.type S v)) (ms.type S k v)
end

mutual
/-- Where each key is there once, there is nothing to merge. -/
theorem merged_of_keyed : ∀ v : Value, v.keyed = true → v.merged = v
  | unit, _ | .bool _, _ | .scalar _, _ | .text _, _ | .bytes _, _ | absent, _ => rfl
  | present v, h => congrArg present (merged_of_keyed v h)
  | sequence vs, h => congrArg sequence (allMerged_of_keyed vs h)
  | map es, h => by
    simp only [keyed, Bool.and_eq_true, decide_eq_true_eq] at h
    rw [merged, entriesMerged_of_keyed es h.2, ofEntries_eq]
    exact congrArg map (gather_of_nodup (m := []) h.1)
  | record vs, h => congrArg record (allMerged_of_keyed vs h)
  | variant tag vs, h => congrArg (variant tag) (allMerged_of_keyed vs h)
theorem allMerged_of_keyed : ∀ vs : List Value, allKeyed vs = true → allMerged vs = vs
  | [], _ => rfl
  | v :: vs, h => by
    simp only [allKeyed, Bool.and_eq_true] at h
    rw [allMerged, merged_of_keyed v h.1, allMerged_of_keyed vs h.2]
theorem entriesMerged_of_keyed : ∀ es : List (Value × Value), entriesKeyed es = true →
    entriesMerged es = es
  | [], _ => rfl
  | e :: es, h => by
    simp only [entriesKeyed, Bool.and_eq_true] at h
    rw [entriesMerged, merged_of_keyed e.1 h.1.1, merged_of_keyed e.2 h.1.2,
      entriesMerged_of_keyed es h.2]
end

end CallBoundary.Value
