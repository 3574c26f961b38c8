import CallBoundary.Proofs.Wire.RoundTrip

/-!
# One encoding for each value

Whatever a reader accepts is the encoding of a spelling of what it reads (`spelled_of_read`): no byte
stands for a truth value or for presence but `0` and `1`, no length is negative, no tag unknown, no
text spelled in another way.  Only a map has several spellings, for its entries can come in any
order, and a key more than once.

So where no map occurs in a type (`MapFree`), the bytes that were read are written again
(`write_read`), and a value has no second encoding.
-/

namespace CallBoundary

/-! ### Types without maps -/

namespace Schema

/-- The types of the parts that the values of a type are put together from. -/
def components (S : Schema) : WireType → List WireType
  | .optional t => [t]
  | .sequence t => [t]
  | .map k v => [k, v]
  | .named name =>
    match S.shape name with
    | .record fields => fields.map (·.type)
    | .choice variants => variants.flatMap fun v => v.fields.map (·.type)
  | _ => []

/-- The types that occur in a type, at any depth. -/
inductive Occurs (S : Schema) (t : WireType) : WireType → Prop
  | self : Occurs S t t
  | component {u w : WireType} : Occurs S t u → w ∈ S.components u → Occurs S t w

/-- No map occurs in a type. -/
def MapFree (S : Schema) (t : WireType) : Prop := ∀ k v, ¬ S.Occurs t (.map k v)

variable {S : Schema} {t u : WireType}

theorem Occurs.of_component {w : WireType} (hu : u ∈ S.components t) (h : S.Occurs u w) :
    S.Occurs t w := by
  induction h with
  | self => exact .component .self hu
  | component _ hw ih => exact .component ih hw

theorem MapFree.component (free : S.MapFree t) (hu : u ∈ S.components t) : S.MapFree u :=
  fun k v h => free k v (h.of_component hu)

/-- Types that have all their components among themselves, and no map, are free of maps. -/
theorem mapFree_of_closed (ts : List WireType)
    (closed : ∀ u ∈ ts, ∀ w ∈ S.components u, w ∈ ts)
    (free : ∀ u ∈ ts, ∀ k v, u ≠ .map k v) (ht : t ∈ ts) : S.MapFree t := by
  intro k v h
  have hmem : ∀ w, S.Occurs t w → w ∈ ts := by
    intro w hw
    induction hw with
    | self => exact ht
    | component _ hw ih => exact closed _ ih _ hw
  exact free _ (hmem _ h) k v rfl

mutual
/-- No map in a value of a type without maps has a key twice, for there is none. -/
theorem MapFree.keyed : ∀ (v : Value) {t : WireType}, S.MapFree t → v.hasType S t = true →
    v.keyed = true := by
  intro v t free typed
  cases v with
  | present v =>
    cases t <;> simp only [Value.hasType, Bool.false_eq_true] at typed
    exact MapFree.keyed v (free.component (.head _)) typed
  | sequence vs =>
    cases t <;> simp only [Value.hasType, Bool.false_eq_true] at typed
    exact MapFree.allKeyed vs (free.component (.head _)) typed
  | map es =>
    cases t <;> simp only [Value.hasType, Bool.false_eq_true] at typed
    exact absurd .self (free _ _)
  | record vs =>
    cases t <;> simp only [Value.hasType, Bool.false_eq_true] at typed
    split at typed
    · next fields hs =>
      refine MapFree.fieldsKeyed vs (fun f hf => free.component ?_) typed
      simp only [components, hs]
      exact List.mem_map_of_mem hf
    · cases typed
  | variant tag vs =>
    cases t <;> simp only [Value.hasType, Bool.false_eq_true] at typed
    split at typed
    · cases typed
    · next variants hs =>
      split at typed
      · next d hd =>
        refine MapFree.fieldsKeyed vs (fun f hf => free.component ?_) typed
        simp only [components, hs, List.mem_flatMap]
        exact ⟨d, List.mem_of_find?_eq_some hd, List.mem_map_of_mem hf⟩
      · cases typed
  | _ => rfl
termination_by v => sizeOf v
theorem MapFree.allKeyed : ∀ (vs : List Value) {t : WireType}, S.MapFree t →
    Value.allHaveType S t vs = true → Value.allKeyed vs = true := by
  intro vs t free typed
  cases vs with
  | nil => rfl
  | cons v vs =>
    rw [Value.allHaveType, Bool.and_eq_true] at typed
    rw [Value.allKeyed, MapFree.keyed v free typed.1, MapFree.allKeyed vs free typed.2]
    rfl
termination_by vs => sizeOf vs
theorem MapFree.fieldsKeyed : ∀ (vs : List Value) {fs : List Field},
    (∀ f ∈ fs, S.MapFree f.type) → Value.fieldsHaveType S fs vs = true →
    Value.allKeyed vs = true := by
  intro vs fs free typed
  cases vs with
  | nil => rfl
  | cons v vs =>
    cases fs with
    | nil => cases typed
    | cons f fs =>
      rw [Value.fieldsHaveType, Bool.and_eq_true] at typed
      rw [Value.allKeyed, MapFree.keyed v (free f (.head _)) typed.1,
        MapFree.fieldsKeyed vs (fun g hg => free g (.tail _ hg)) typed.2]
      rfl
termination_by vs => sizeOf vs
end

end Schema

/-! ### What lies between two places -/

namespace Cursor

/-- Just these bytes lie between one place and another. -/
def Spans (c : Cursor) (bs : Bytes) (c' : Cursor) : Prop :=
  c.unread = bs ++ c'.unread ∧ c'.position = c.position + bs.length

variable {c c₁ c' : Cursor} {bs cs : Bytes}

theorem spans_nil (c : Cursor) : c.Spans [] c := ⟨rfl, rfl⟩

theorem Spans.append (h₁ : c.Spans bs c₁) (h₂ : c₁.Spans cs c') : c.Spans (bs ++ cs) c' := by
  refine ⟨?_, ?_⟩
  · rw [h₁.1, h₂.1, List.append_assoc]
  · rw [h₂.2, h₁.2, List.length_append, Nat.add_assoc]

end Cursor

/-! ### Readers of single items -/

namespace Reader

variable {c c' : Cursor}

theorem spans_take {n : Nat} {bs : Bytes} (h : take n c = .ok bs c') :
    c.Spans bs c' ∧ bs.length = n := by
  rw [take_apply] at h
  split at h
  · next hn =>
    cases h
    have hlen : (c.unread.take n).length = n := List.length_take_of_le hn
    refine ⟨⟨(List.take_append_drop n c.unread).symm, ?_⟩, hlen⟩
    rw [hlen]
    rfl
  · cases h

theorem spans_scalar {t : ScalarType} {s : Scalar} (h : scalar t c = .ok s c') :
    c.Spans s.encode c' ∧ s.type = t := by
  obtain ⟨bs, c₁, htake, hret⟩ := bind_ok h
  obtain ⟨rfl, rfl⟩ := pure_ok hret
  obtain ⟨hspans, hlen⟩ := spans_take htake
  rw [Scalar.encode_ofBytes hlen]
  exact ⟨hspans, rfl⟩

/-- A word of 32 bits that is not negative is a length that fits. -/
theorem toNat_toInt_of_nonneg {w : BitVec 32} (h : ¬ w.toInt < 0) :
    w.toInt.toNat = w.toNat ∧ w.toNat ≤ maxLength := by
  rw [BitVec.toInt_eq_toNat_cond] at h ⊢
  have hlt := w.isLt
  unfold maxLength
  split at h
  · next hs =>
    rw [if_pos hs]
    omega
  · omega

theorem spans_length {n : Nat} (h : length c = .ok n c') :
    c.Spans (bigEndian 4 n) c' ∧ n ≤ maxLength := by
  obtain ⟨⟨t, w⟩, c₁, hs, hret⟩ := bind_ok h
  obtain ⟨hspans, rfl⟩ := spans_scalar hs
  by_cases hneg : w.toInt < 0
  · have hret : (throw (.negativeLength w.toInt) : Reader Nat) c₁ = .ok n c' := by
      rwa [show Scalar.toInt ⟨.i32, w⟩ = w.toInt from rfl, if_pos hneg] at hret
    cases hret
  · obtain ⟨hnat, hle⟩ := toNat_toInt_of_nonneg hneg
    have hret : (pure w.toInt.toNat : Reader Nat) c₁ = .ok n c' := by
      rwa [show Scalar.toInt ⟨.i32, w⟩ = w.toInt from rfl, if_neg hneg] at hret
    obtain ⟨rfl, rfl⟩ := pure_ok hret
    have hnat : w.toInt.toNat = w.toNat := hnat
    rw [hnat]
    exact ⟨hspans, hle⟩

theorem boolOf_ok {n : Int} {b : Bool} (h : boolOf n = .ok b) : n = if b then 1 else 0 := by
  unfold boolOf at h
  split at h <;> cases h <;> rfl

theorem spans_bool {b : Bool} (h : bool c = .ok b c') : c.Spans [if b then 1 else 0] c' := by
  obtain ⟨⟨t, w⟩, c₁, hs, hret⟩ := bind_ok h
  obtain ⟨hspans, rfl⟩ := spans_scalar hs
  cases hb : boolOf (Scalar.toInt ⟨.i8, w⟩) with
  | error e =>
    rw [hb] at hret
    cases hret
  | ok b' =>
    rw [hb] at hret
    obtain ⟨rfl, rfl⟩ := pure_ok hret
    have hint : w.toInt = if b' then 1 else 0 := boolOf_ok hb
    have hw : w = if b' then 1 else 0 := by
      apply BitVec.eq_of_toInt_eq
      rw [hint]
      cases b' <;> rfl
    rw [hw] at hspans
    cases b' <;> exact hspans

theorem spans_presence {b : Bool} (h : presence c = .ok b c') :
    c.Spans [if b then 1 else 0] c' := by
  obtain ⟨bs, c₁, htake, hret⟩ := bind_ok h
  have hspans := (spans_take htake).1
  split at hret
  · obtain ⟨rfl, rfl⟩ := pure_ok hret
    exact hspans
  · obtain ⟨rfl, rfl⟩ := pure_ok hret
    exact hspans
  · cases hret

theorem spans_tag {t : BitVec 32} (h : tag c = .ok t c') :
    c.Spans (bigEndian 4 t.toNat) c' := by
  obtain ⟨bs, c₁, htake, hret⟩ := bind_ok h
  obtain ⟨rfl, rfl⟩ := pure_ok hret
  obtain ⟨hspans, hlen⟩ := spans_take htake
  have hlt : ofBigEndian bs < spellings 4 := hlen ▸ ofBigEndian_lt bs
  have hnat : (BitVec.ofNat 32 (ofBigEndian bs)).toNat = ofBigEndian bs := by
    rw [BitVec.toNat_ofNat]
    exact Nat.mod_eq_of_lt hlt
  rw [hnat, ← hlen, bigEndian_ofBigEndian]
  exact hspans

theorem spans_bytes {bs : Bytes} (h : bytes c = .ok bs c') :
    c.Spans (bigEndian 4 bs.length ++ bs) c' ∧ bs.length ≤ maxLength := by
  obtain ⟨n, c₁, hn, htake⟩ := bind_ok h
  obtain ⟨hcount, hle⟩ := spans_length hn
  obtain ⟨hspans, rfl⟩ := spans_take htake
  exact ⟨hcount.append hspans, hle⟩

/-- A text has one spelling. -/
theorem encodeText_of_ofText {bs : Bytes} {s : String} (h : ofText bs = .ok s) :
    encodeText s = bs := by
  unfold ofText at h
  split at h
  · next hs =>
    cases h
    exact encodeText_of_decodeText hs
  · cases h

theorem spans_text {s : String} (h : text c = .ok s c') :
    c.Spans (bigEndian 4 (encodeText s).length ++ encodeText s) c' ∧
      (encodeText s).length ≤ maxLength := by
  obtain ⟨bs, c₁, hbs, hret⟩ := bind_ok h
  have hspans := spans_bytes hbs
  cases hs : ofText bs with
  | error e =>
    rw [hs] at hret
    cases hret
  | ok s' =>
    rw [hs] at hret
    obtain ⟨rfl, rfl⟩ := pure_ok hret
    rw [encodeText_of_ofText hs]
    exact hspans

end Reader

/-! ### Readers of values -/

open Reader Value

namespace Schema

/-- A value `w` of a type, in bounds, is a spelling of `v`: with its entries merged it is `v`. -/
structure Spells (S : Schema) (t : WireType) (w v : Value) : Prop where
  type : w.hasType S t = true
  fits : w.fits = true
  merged : w.merged = v

variable (S : Schema)

mutual
/-- **What is read is the encoding of a spelling** of the value. -/
theorem spelled_of_read (t : WireType) (c : Cursor) : ∀ {v : Value} {c' : Cursor},
    S.read t c = .ok v c' → ∃ w, c.Spans w.encode c' ∧ S.Spells t w v := by
  cases t with
  | unit =>
    rw [read_unit]
    intro _ _ h
    obtain ⟨rfl, rfl⟩ := pure_ok h
    exact ⟨.unit, c.spans_nil, rfl, rfl, rfl⟩
  | bool =>
    rw [read_bool]
    intro _ _ h
    obtain ⟨b, c₁, hb, hret⟩ := bind_ok h
    obtain ⟨rfl, rfl⟩ := pure_ok hret
    exact ⟨.bool b, spans_bool hb, rfl, rfl, rfl⟩
  | scalar t =>
    rw [read_scalar]
    intro _ _ h
    obtain ⟨s, c₁, hs, hret⟩ := bind_ok h
    obtain ⟨rfl, rfl⟩ := pure_ok hret
    obtain ⟨hspans, rfl⟩ := spans_scalar hs
    exact ⟨.scalar s, hspans, beq_self_eq_true _, rfl, rfl⟩
  | text =>
    rw [read_text]
    intro _ _ h
    obtain ⟨s, c₁, hs, hret⟩ := bind_ok h
    obtain ⟨rfl, rfl⟩ := pure_ok hret
    obtain ⟨hspans, hle⟩ := spans_text hs
    exact ⟨.text s, hspans, rfl, decide_eq_true hle, rfl⟩
  | bytes =>
    rw [read_bytes]
    intro _ _ h
    obtain ⟨bs, c₁, hbs, hret⟩ := bind_ok h
    obtain ⟨rfl, rfl⟩ := pure_ok hret
    obtain ⟨hspans, hle⟩ := spans_bytes hbs
    exact ⟨.bytes bs, hspans, rfl, decide_eq_true hle, rfl⟩
  | optional t =>
    rw [read_optional]
    intro _ _ h
    obtain ⟨there, c₁, hthere, hrest⟩ := bind_ok h
    have hflag := spans_presence hthere
    cases there with
    | false =>
      obtain ⟨rfl, rfl⟩ := pure_ok hrest
      exact ⟨.absent, hflag, rfl, rfl, rfl⟩
    | true =>
      obtain ⟨v, c₂, hv, hret⟩ := bind_ok hrest
      obtain ⟨rfl, rfl⟩ := pure_ok hret
      obtain ⟨w, hspans, typed, bounded, rfl⟩ := spelled_of_read t c₁ hv
      exact ⟨.present w, hflag.append hspans, typed, bounded, rfl⟩
  | sequence t =>
    rw [read_sequence]
    intro _ _ h
    obtain ⟨n, c₁, hn, hrest⟩ := bind_ok h
    obtain ⟨vs, c₂, hvs, hret⟩ := bind_ok hrest
    obtain ⟨rfl, rfl⟩ := pure_ok hret
    obtain ⟨hcount, hle⟩ := spans_length hn
    obtain ⟨ws, rfl, hspans, typed, bounded, rfl⟩ := spelled_of_readMany t n c₁ hvs
    refine ⟨.sequence ws, hcount.append hspans, typed, ?_, rfl⟩
    rw [fits, bounded, Bool.and_true]
    exact decide_eq_true hle
  | map k v =>
    rw [read_map]
    intro _ _ h
    obtain ⟨n, c₁, hn, hrest⟩ := bind_ok h
    obtain ⟨m, c₂, hm, hret⟩ := bind_ok hrest
    obtain ⟨rfl, rfl⟩ := pure_ok hret
    obtain ⟨hcount, hle⟩ := spans_length hn
    obtain ⟨es, rfl, hspans, typed, bounded, rfl⟩ := spelled_of_readEntries k v n [] c₁ hm
    refine ⟨.map es, hcount.append hspans, typed, ?_, rfl⟩
    rw [fits, bounded, Bool.and_true]
    exact decide_eq_true hle
  | named name =>
    cases hs : S.shape name with
    | record fields =>
      rw [read_record S hs]
      intro _ _ h
      obtain ⟨vs, c₁, hvs, hret⟩ := bind_ok h
      obtain ⟨rfl, rfl⟩ := pure_ok hret
      obtain ⟨ws, hspans, typed, bounded, rfl⟩ := spelled_of_readFields fields c hvs
      exact ⟨.record ws, hspans, by simpa only [hasType, hs] using typed, bounded, rfl⟩
    | choice variants =>
      rw [read_choice S hs]
      intro _ _ h
      obtain ⟨tag, c₁, htag, hrest⟩ := bind_ok h
      cases hd : variants.find? (·.tag = tag) with
      | none =>
        rw [hd] at hrest
        cases hrest
      | some d =>
        rw [hd] at hrest
        obtain ⟨vs, c₂, hvs, hret⟩ := bind_ok hrest
        obtain ⟨rfl, rfl⟩ := pure_ok hret
        obtain rfl : d.tag = tag := by simpa using List.find?_some hd
        obtain ⟨ws, hspans, typed, bounded, rfl⟩ := spelled_of_readFields d.fields c₁ hvs
        refine ⟨.variant d.tag ws, (spans_tag htag).append hspans, ?_, bounded, rfl⟩
        simpa only [hasType, hs, hd] using typed
termination_by (c.remaining, S.level t, 0)
decreasing_by
  · have := takes_presence.ok _ _ _ hthere
    exact .left _ _ (by omega)
  · have := takes_length.ok _ _ _ hn
    exact .left _ _ (by omega)
  · have := takes_length.ok _ _ _ hn
    exact .left _ _ (by omega)
  · exact lex_lt (Nat.le_refl _) (.inl (height_lt_level hs))
  · have := takes_tag.ok _ _ _ htag
    exact .left _ _ (by omega)
theorem spelled_of_readMany (t : WireType) (n : Nat) (c : Cursor) :
    ∀ {vs : List Value} {c' : Cursor}, S.readMany t n c = .ok vs c' →
      ∃ ws, n = ws.length ∧ c.Spans (encodeAll ws) c' ∧
        allHaveType S t ws = true ∧ allFit ws = true ∧ allMerged ws = vs := by
  cases n with
  | zero =>
    rw [readMany_zero]
    intro _ _ h
    obtain ⟨rfl, rfl⟩ := pure_ok h
    exact ⟨[], rfl, c.spans_nil, rfl, rfl, rfl⟩
  | succ n =>
    rw [readMany_succ]
    intro _ _ h
    obtain ⟨v, c₁, hv, hrest⟩ := bind_ok h
    obtain ⟨vs, c₂, hvs, hret⟩ := bind_ok hrest
    obtain ⟨rfl, rfl⟩ := pure_ok hret
    obtain ⟨w, hspans, typed, bounded, rfl⟩ := spelled_of_read t c hv
    obtain ⟨ws, rfl, hspans', typed', bounded', rfl⟩ := spelled_of_readMany t n c₁ hvs
    refine ⟨w :: ws, rfl, hspans.append hspans', ?_, ?_, rfl⟩
    · rw [allHaveType, typed, typed']
      rfl
    · rw [allFit, bounded, bounded']
      rfl
termination_by (c.remaining, S.level t, n + 1)
decreasing_by
  · exact lex_lt (Nat.le_refl _) (.inr ⟨Nat.le_refl _, by omega⟩)
  · exact lex_lt (S.onward_of_read hv).le (.inr ⟨Nat.le_refl _, by omega⟩)
/-- The entries are put into the map `m` that has been read so far. -/
theorem spelled_of_readEntries (k v : WireType) (n : Nat) (m : List (Value × Value)) (c : Cursor) :
    ∀ {m' : List (Value × Value)} {c' : Cursor}, S.readEntries k v n m c = .ok m' c' →
      ∃ es, n = es.length ∧ c.Spans (encodeEntries es) c' ∧
        entriesHaveType S k v es = true ∧ entriesFit es = true ∧
        gather m (entriesMerged es) = m' := by
  cases n with
  | zero =>
    rw [readEntries_zero]
    intro _ _ h
    obtain ⟨rfl, rfl⟩ := pure_ok h
    exact ⟨[], rfl, c.spans_nil, rfl, rfl, rfl⟩
  | succ n =>
    rw [readEntries_succ]
    intro _ _ h
    obtain ⟨key, c₁, hk, hrest⟩ := bind_ok h
    obtain ⟨value, c₂, hv, hrest⟩ := bind_ok hrest
    obtain ⟨x, hspans, typed, bounded, rfl⟩ := spelled_of_read k c hk
    obtain ⟨y, hspans', typed', bounded', rfl⟩ := spelled_of_read v c₁ hv
    obtain ⟨es, rfl, hspans'', typed'', bounded'', rfl⟩ := spelled_of_readEntries k v n _ c₂ hrest
    refine ⟨(x, y) :: es, rfl, hspans.append (hspans'.append hspans''), ?_, ?_, rfl⟩
    · rw [entriesHaveType, typed, typed', typed'']
      rfl
    · rw [entriesFit, bounded, bounded', bounded'']
      rfl
termination_by (c.remaining, max (S.level k) (S.level v), n + 1)
decreasing_by
  · exact lex_lt (Nat.le_refl _) (.inr ⟨Nat.le_max_left .., by omega⟩)
  · exact lex_lt (S.onward_of_read hk).le (.inr ⟨Nat.le_max_right .., by omega⟩)
  · exact lex_lt (Nat.le_trans (S.onward_of_read hv).le (S.onward_of_read hk).le)
      (.inr ⟨Nat.le_refl _, by omega⟩)
theorem spelled_of_readFields (fields : List Field) (c : Cursor) :
    ∀ {vs : List Value} {c' : Cursor}, S.readFields fields c = .ok vs c' →
      ∃ ws, c.Spans (encodeAll ws) c' ∧
        fieldsHaveType S fields ws = true ∧ allFit ws = true ∧ allMerged ws = vs := by
  cases fields with
  | nil =>
    rw [readFields_nil]
    intro _ _ h
    obtain ⟨rfl, rfl⟩ := pure_ok h
    exact ⟨[], c.spans_nil, rfl, rfl, rfl⟩
  | cons f fs =>
    rw [readFields_cons]
    intro _ _ h
    obtain ⟨v, c₁, hv, hrest⟩ := bind_ok h
    obtain ⟨vs, c₂, hvs, hret⟩ := bind_ok hrest
    obtain ⟨rfl, rfl⟩ := pure_ok hret
    obtain ⟨w, hspans, typed, bounded, rfl⟩ := spelled_of_read f.type c hv
    obtain ⟨ws, hspans', typed', bounded', rfl⟩ := spelled_of_readFields fs c₁ hvs
    refine ⟨w :: ws, hspans.append hspans', ?_, ?_, rfl⟩
    · rw [fieldsHaveType, typed, typed']
      rfl
    · rw [allFit, bounded, bounded']
      rfl
termination_by (c.remaining, S.height fields, fields.length + 1)
decreasing_by
  · exact lex_lt (Nat.le_refl _) (.inr ⟨level_le_height, by simp⟩)
  · exact lex_lt (S.onward_of_read hv).le (.inr ⟨height_le_cons, by simp⟩)
end

variable {S : Schema}

/-- **What is read is the encoding of the value**, and its lengths fit. -/
theorem spans_of_read (v : Value) {t : WireType} {c c' : Cursor} (free : S.MapFree t)
    (h : S.read t c = .ok v c') : c.Spans v.encode c' ∧ v.fits = true := by
  obtain ⟨w, hspans, typed, bounded, rfl⟩ := S.spelled_of_read t c h
  rw [merged_of_keyed w (MapFree.keyed w free typed)]
  exact ⟨hspans, bounded⟩

/-- **One encoding for each value.**  Let a value `v` of a type without maps be read from some bytes,
whatever place in a run they have and whatever follows.  Just as many bytes are taken as the encoding
of `v` is long; `v` is written as those very bytes wherever there is room; and wherever else `v` is
read, it is read from the same bytes. -/
theorem write_read {t : WireType} (free : S.MapFree t) {p : Nat} {bs : Bytes} {v : Value}
    {c : Cursor} (h : S.read t ⟨p, bs⟩ = .ok v c) :
    v.encodedLength ≤ bs.length ∧
    c = ⟨p + v.encodedLength, bs.drop v.encodedLength⟩ ∧
    (∀ room : Region, v.encodedLength ≤ room.available →
      v.write room = .ok () (room.push (bs.take v.encodedLength))) ∧
    ∀ (q : Nat) (cs : Bytes) (c₁ : Cursor), S.read t ⟨q, cs⟩ = .ok v c₁ →
      cs.take v.encodedLength = bs.take v.encodedLength := by
  have taken : ∀ {q : Nat} {cs : Bytes} {c₁ : Cursor}, S.read t ⟨q, cs⟩ = .ok v c₁ →
      cs.take v.encodedLength = v.encode := by
    intro q cs c₁ hread
    have hcs : cs = v.encode ++ c₁.unread := (spans_of_read v free hread).1.1
    rw [hcs, ← length_encode, List.take_left]
  obtain ⟨⟨hbs, hpos⟩, hfit⟩ := spans_of_read v free h
  have hbs : bs = v.encode ++ c.unread := hbs
  refine ⟨?_, ?_, ?_, ?_⟩
  · rw [hbs, List.length_append, length_encode]
    exact Nat.le_add_right ..
  · have hpos : c.position = p + v.encode.length := hpos
    rw [← length_encode, ← hpos, hbs, List.drop_left]
  · intro room enough
    rw [taken h]
    exact v.write_eq hfit enough
  · intro q cs c₁ hread
    rw [taken hread, taken h]

/-- The types that shapes are made of. -/
def shapeTypes : List WireType :=
  [.named "Shape", .scalar .f64, .sequence (.scalar .i32), .scalar .i32, .optional .text, .text,
    .sequence (.named "Shape"), .unit]

theorem mapFree_shape : Sample.schema.MapFree (.named "Shape") :=
  mapFree_of_closed shapeTypes (by decide) (by simp [shapeTypes]) (.head _)

/-- The bytes of a hole around a circle. -/
def holeBytes : Bytes :=
  [0xff, 0xff, 0xff, 0xfd, 0, 0, 0, 1, 0, 0, 0, 2, 0x7f, 0xf8, 0, 0, 0, 0, 0, 1]

/-- The hole is read from the front of a run that goes on, and no other bytes spell it. -/
theorem write_read_hole :
    hole.encodedLength ≤ (holeBytes ++ [1]).length ∧
    (⟨0 + 20, [1]⟩ : Cursor) =
      ⟨0 + hole.encodedLength, (holeBytes ++ [1]).drop hole.encodedLength⟩ ∧
    (∀ room : Region, hole.encodedLength ≤ room.available →
      hole.write room = .ok () (room.push ((holeBytes ++ [1]).take hole.encodedLength))) ∧
    ∀ (q : Nat) (cs : Bytes) (c₁ : Cursor),
      Sample.schema.read (.named "Shape") ⟨q, cs⟩ = .ok hole c₁ →
      cs.take hole.encodedLength = (holeBytes ++ [1]).take hole.encodedLength :=
  have hread : Sample.schema.read (.named "Shape") ⟨0, holeBytes ++ [1]⟩ =
      .ok hole ⟨0 + 20, [1]⟩ :=
    Sample.schema.reads_encode hole (by decide) (by decide) (by decide) 0 [1]
  write_read mapFree_shape hread

end Schema

end CallBoundary
