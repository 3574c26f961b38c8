import CallBoundary.Proofs.Wire.Canonical

/-!
# Maps on the wire

A map is written as the number of its entries and then the entries, in any order, and whoever reads
it puts them into a map one after the other.  `S.Gathers k v es m` says what reading the entries `es`
comes to: the map `m` has for each key the last of its entries, it is not larger than the bytes it
was read from, and it can be written again in every order.

In the maps inside the entries a key can come more than once as well.  So the entries are themselves
read merged, `entriesMerged es`; where no key inside them is repeated, these are just `es`.
-/

namespace CallBoundary

open Reader

namespace Value

variable {es fs m : List (Value × Value)}

theorem entriesMerged_eq_map (es : List (Value × Value)) :
    entriesMerged es = es.map fun e => (e.1.merged, e.2.merged) := by
  induction es with
  | nil => rfl
  | cons e es ih => rw [entriesMerged, ih, List.map_cons]

theorem entriesMerged_perm (h : es.Perm fs) : (entriesMerged es).Perm (entriesMerged fs) := by
  rw [entriesMerged_eq_map, entriesMerged_eq_map]
  exact h.map _

theorem lookup_eq_none_iff {key : Value} : lookup key m = none ↔ key ∉ keys m := by
  induction m with
  | nil => simp [lookup, keys]
  | cons d m ih =>
    rw [lookup]
    by_cases hk : d.1 = key
    · simp [keys, hk]
    · simpa [keys, hk, Ne.symm hk] using ih

/-- The keys of a map are those of the entries that were put into it. -/
theorem mem_keys_gather {key : Value} : key ∈ keys (gather [] es) ↔ key ∈ keys es := by
  have hnone : lookup key (gather [] es) = none ↔ lookup key es.reverse = none := by
    rw [lookup_gather, List.append_nil]
  rw [lookup_eq_none_iff, lookup_eq_none_iff, Decidable.not_iff_not] at hnone
  rw [hnone]
  simp [keys]

/-- What is left of the entries of a key is the last of them. -/
theorem lookup_gather_of_last {before after : List (Value × Value)} {key value : Value}
    (last : key ∉ keys after) :
    lookup key (gather [] (before ++ (key, value) :: after)) = some value := by
  have hafter : lookup key after.reverse = none := by
    rw [lookup_eq_none_iff]
    simpa [keys] using last
  rw [lookup_gather, List.append_nil, List.reverse_append, List.reverse_cons, lookup_append,
    lookup_append, hafter]
  simp [lookup]

theorem alike_of_perm (h : es.Perm fs) : (map es).Alike (map fs) := by
  refine .map ?_
  induction h with
  | nil => exact .nil
  | cons e _ ih => exact .cons e.1 (.same e.2) ih
  | swap a b es => exact .swap b a es
  | trans _ _ ih₁ ih₂ => exact ih₁.trans ih₂

end Value

open Value

namespace Schema

/-- What reading a map comes to if its entries are the encodings of `es`, one after the other: it is
the map `m`, whatever follows. -/
structure Gathers (S : Schema) (k v : WireType) (es m : List (Value × Value)) : Prop where
  /-- The bytes of the entries are all read, and no more. -/
  read : Reads (S.read (.map k v)) (bigEndian 4 es.length ++ encodeEntries es) (.map m)
  /-- The entries are read as they are, unless some map inside them has a key more than once. -/
  plain : entriesKeyed es = true → entriesMerged es = es
  /-- Each key has the value of its last entry. -/
  last : ∀ before key value after, entriesMerged es = before ++ (key, value) :: after →
    key ∉ keys after → lookup key m = some value
  /-- There are no other keys, -/
  others : ∀ key, key ∈ keys m ↔ key ∈ keys (entriesMerged es)
  /-- and each is there once. -/
  distinct : (keys m).Nodup
  /-- If the keys are distinct, the same entries in another order are read as the same map. -/
  order : (keys (entriesMerged es)).Nodup → ∀ fs, es.Perm fs → ∃ m', m.Perm m' ∧
    Reads (S.read (.map k v)) (bigEndian 4 fs.length ++ encodeEntries fs) (.map m')
  /-- There are no more entries than the count says. -/
  count : m.length ≤ es.length
  /-- The map is not longer than the bytes it was read from, -/
  length : (Value.map m).encodedLength ≤ (bigEndian 4 es.length ++ encodeEntries es).length
  /-- and just as long if no key comes more than once, at any depth. -/
  tight : (Value.map es).keyed = true →
    (Value.map m).encodedLength = (bigEndian 4 es.length ++ encodeEntries es).length
  /-- In every order of its entries, at any depth, the map is written and read back. -/
  again : ∀ w, (Value.map m).Alike w → ∀ room : Region, w.encodedLength ≤ room.available →
    ∃ bs, w.write room = .ok () (room.push bs) ∧ Reads (S.read (.map k v)) bs w

variable {S : Schema} {k v : WireType} {es m : List (Value × Value)}

/-- Any entries of the right types are gathered. -/
theorem gathers (typed : entriesHaveType S k v es = true) (bounded : entriesFit es = true)
    (short : es.length ≤ maxLength) : S.Gathers k v es (gather [] (entriesMerged es)) := by
  have fits : (Value.map es).fits = true := by
    rw [Value.fits, bounded, Bool.and_true]
    exact decide_eq_true short
  have merging : Merging (.map es) (.map (gather [] (entriesMerged es))) := Value.merging (.map es)
  have spelled : ∀ fs, es.Perm fs → Reads (S.read (.map k v))
      (bigEndian 4 fs.length ++ encodeEntries fs) (.map (gather [] (entriesMerged fs))) := by
    intro fs h
    have alike := (alike_of_perm h).matched
    exact S.reads_merged (.map fs) ((alike.type S (.map k v)).symm.trans typed)
      (alike.fits.symm.trans fits)
  have consumed : (bigEndian 4 es.length ++ encodeEntries es).length =
      (Value.map es).encodedLength := length_encode (.map es)
  constructor
  · exact spelled es (.refl es)
  · exact entriesMerged_of_keyed es
  · intro before key value after h last
    rw [h]
    exact lookup_gather_of_last last
  · intro key
    exact mem_keys_gather
  · exact nodup_gather (by simp [Value.keys])
  · intro distinct fs h
    refine ⟨_, ?_, spelled fs h⟩
    have hperm := entriesMerged_perm h
    have distinct' : (keys (entriesMerged fs)).Nodup := (hperm.map _).nodup_iff.1 distinct
    rw [gather_of_nodup (m := []) distinct, gather_of_nodup (m := []) distinct']
    exact hperm
  · rw [← (entriesMerging es).count, ← Nat.zero_add (entriesMerged es).length]
    exact length_gather_le
  · rw [consumed]
    exact merging.length
  · intro hkeyed
    have hmap : Value.map (gather [] (entriesMerged es)) = .map es := merged_of_keyed _ hkeyed
    rw [consumed, hmap]
  · intro w alike room enough
    have matched := alike.matched
    have hfits : w.fits = true := matched.fits.symm.trans (merging.fits fits)
    have htype : w.hasType S (.map k v) = true :=
      (matched.type S (.map k v)).symm.trans (merging.type S (.map k v) typed)
    refine ⟨w.encode, w.write_eq hfits enough, S.reads_encode w htype hfits ?_⟩
    exact matched.keyed.symm.trans merging.keyed

/-- **Maps on the wire.**  The entries of a map of any types, in any order and with any keys coming
more than once, are read as the map that has for each key the last of its values (`Gathers`), and a
map is never read from anything else. -/
theorem read_map_gathers (S : Schema) (k v : WireType) :
    (∀ es, entriesHaveType S k v es = true → entriesFit es = true → es.length ≤ maxLength →
      ∃ m, S.Gathers k v es m) ∧
    ∀ p bs w c, S.read (.map k v) ⟨p, bs⟩ = .ok w c → ∃ es m, w = .map m ∧
      bs = bigEndian 4 es.length ++ encodeEntries es ++ c.unread ∧
      entriesHaveType S k v es = true ∧ entriesFit es = true ∧ es.length ≤ maxLength ∧
      S.Gathers k v es m := by
  constructor
  · intro es typed bounded short
    exact ⟨_, gathers typed bounded short⟩
  · intro p bs w c h
    obtain ⟨u, hspans, spells⟩ := S.spelled_of_read (.map k v) ⟨p, bs⟩ h
    -- only a map is of the type of maps
    obtain ⟨es, rfl⟩ : ∃ es, u = .map es := by
      have typed := spells.type
      cases u <;> simp only [hasType, Bool.false_eq_true] at typed
      exact ⟨_, rfl⟩
    have typed : entriesHaveType S k v es = true := spells.type
    have fits := spells.fits
    simp only [Value.fits, Bool.and_eq_true, decide_eq_true_eq] at fits
    exact ⟨es, _, spells.merged.symm, hspans.1, typed, fits.2, fits.1,
      gathers typed fits.2 fits.1⟩

/-- Three entries, of which the first and the last have one key, and the first a map with a key that
comes twice itself. -/
def repeated : List (Value × Value) :=
  [(.text "a", .map [(.text "x", .bool false), (.text "x", .bool true)]), (.text "b", .map []),
    (.text "a", .map [(.text "y", .bool true)])]

/-- Of the two entries of `a` the last one stays. -/
theorem read_map_repeated : ∃ m, Sample.schema.Gathers .text (.map .text .bool) repeated m ∧
    lookup (.text "a") m = some (.map [(.text "y", .bool true)]) ∧
    lookup (.text "b") m = some (.map []) ∧ lookup (.text "c") m = none := by
  obtain ⟨m, g⟩ := (read_map_gathers Sample.schema .text (.map .text .bool)).1 repeated
    (by decide) (by decide) (by decide)
  refine ⟨m, g, ?_, ?_, ?_⟩
  · exact g.last [(.text "a", .map [(.text "x", .bool true)]), (.text "b", .map [])] (.text "a") _ []
      (by decide) nofun
  · exact g.last [(.text "a", .map [(.text "x", .bool true)])] (.text "b") _
      [(.text "a", .map [(.text "y", .bool true)])] (by decide) (by decide)
  · rw [lookup_eq_none_iff, g.others]
    decide

end Schema

end CallBoundary
