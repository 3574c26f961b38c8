import CallBoundary.Proofs.Wire.Merging
import CallBoundary.Proofs.Wire.Writing
import CallBoundary.Sample.Types
import CallBoundary.Wire.Decode

/-!
# Reading what was written

Each reader takes the encoding of a value from the front of a byte run and leaves what follows it
(`reads_merged`), and what it has read is the value, if each key was written once (`reads_encode`).
So nothing is lost on the wire, whatever the order in which the entries of the maps in a value are
written: `read_write`.
-/

namespace CallBoundary

/-! ### Readers of single items -/

namespace Reader

/-- `r` reads `a` from the bytes `bs`, whatever precedes and follows them. -/
def Reads (r : Reader α) (bs : Bytes) (a : α) : Prop :=
  ∀ p rest, r ⟨p, bs ++ rest⟩ = .ok a ⟨p + bs.length, rest⟩

theorem reads_pure (a : α) : Reads (pure a) [] a := fun _ _ => rfl

theorem Reads.bind {r : Reader α} {f : α → Reader β} {bs cs : Bytes} {a : α} {b : β}
    (hr : Reads r bs a) (hf : Reads (f a) cs b) : Reads (r >>= f) (bs ++ cs) b := by
  intro p rest
  rw [bind_apply, List.append_assoc, hr p (cs ++ rest)]
  refine (hf _ rest).trans ?_
  rw [List.length_append, Nat.add_assoc]

/-- What is read may be looked at without reading on. -/
theorem Reads.bind_pure {r : Reader α} {f : α → Reader β} {bs : Bytes} {a : α} {b : β}
    (hr : Reads r bs a) (hf : f a = pure b) : Reads (r >>= f) bs b := by
  have h := hr.bind (hf ▸ reads_pure b : Reads (f a) [] b)
  rwa [List.append_nil] at h

theorem reads_take {bs : Bytes} {n : Nat} (h : bs.length = n) : Reads (take n) bs bs := by
  intro p rest
  subst h
  rw [take_apply, if_pos (by simp [Cursor.remaining])]
  simp [Cursor.skip]

theorem reads_scalar (s : Scalar) : Reads (scalar s.type) s.encode s :=
  (reads_take s.encode_length).bind_pure (congrArg pure s.ofBytes_encode)

theorem reads_length {n : Nat} (h : n ≤ maxLength) : Reads length (bigEndian 4 n) n := by
  have hlt : 2 * n < 2 ^ 32 := by
    unfold maxLength at h
    omega
  have hm : (BitVec.ofNat 32 n).toNat = n := by
    rw [BitVec.toNat_ofNat, Nat.mod_eq_of_lt (by omega)]
  have hn : (BitVec.ofNat 32 n).toInt = n := by
    rw [BitVec.toInt_eq_toNat_of_lt (by rwa [hm]), hm]
  have hs : Reads (scalar .i32) (bigEndian 4 n) ⟨.i32, BitVec.ofNat 32 n⟩ := by
    have h := reads_scalar ⟨.i32, BitVec.ofNat 32 n⟩
    rwa [show Scalar.encode ⟨.i32, BitVec.ofNat 32 n⟩ = bigEndian 4 n from congrArg _ hm] at h
  refine hs.bind_pure ?_
  have ht : Scalar.toInt ⟨.i32, BitVec.ofNat 32 n⟩ = n := hn
  simp only [ht]
  rw [if_neg (by omega), Int.toNat_natCast]

theorem reads_bool (b : Bool) : Reads bool [if b then 1 else 0] b := by
  have h := reads_scalar ⟨.i8, if b then 1 else 0⟩
  cases b with
  | false => exact (show Reads _ [0] _ from h).bind_pure rfl
  | true => exact (show Reads _ [1] _ from h).bind_pure rfl

theorem reads_presence (b : Bool) : Reads presence [if b then 1 else 0] b := by
  cases b with
  | false => exact (show Reads (take 1) [0] [0] from reads_take rfl).bind_pure rfl
  | true => exact (show Reads (take 1) [1] [1] from reads_take rfl).bind_pure rfl

theorem reads_tag (t : BitVec 32) : Reads tag (bigEndian 4 t.toNat) t := by
  have ht : t.toNat < spellings 4 := t.isLt
  refine (reads_take (bigEndian_length 4 t.toNat)).bind_pure (congrArg pure ?_)
  rw [ofBigEndian_bigEndian, Nat.mod_eq_of_lt ht, BitVec.ofNat_toNat, BitVec.setWidth_eq]

theorem reads_bytes {bs : Bytes} (h : bs.length ≤ maxLength) :
    Reads bytes (bigEndian 4 bs.length ++ bs) bs :=
  (reads_length h).bind (reads_take rfl)

theorem reads_text {s : String} (h : (encodeText s).length ≤ maxLength) :
    Reads text (bigEndian 4 (encodeText s).length ++ encodeText s) s := by
  refine (reads_bytes h).bind_pure ?_
  simp only [ofText, decodeText_encodeText]

end Reader

/-! ### Readers of values -/

open Reader Value

namespace Schema

variable (S : Schema)

mutual
/-- **Every spelling of a value is read as the value**, with its entries merged, whatever follows
it. -/
theorem reads_merged : ∀ (v : Value) {t : WireType}, v.hasType S t = true → v.fits = true →
    Reads (S.read t) v.encode v.merged
  | unit, t, ht, _ => by
    cases t <;> simp only [hasType, Bool.false_eq_true] at ht
    rw [read_unit]
    exact reads_pure _
  | .bool b, t, ht, _ => by
    cases t <;> simp only [hasType, Bool.false_eq_true] at ht
    rw [read_bool]
    exact (reads_bool b).bind_pure rfl
  | .scalar s, t, ht, _ => by
    cases t <;> simp only [hasType, Bool.false_eq_true, beq_iff_eq] at ht
    subst ht
    rw [read_scalar]
    exact (reads_scalar s).bind_pure rfl
  | .text s, t, ht, hf => by
    cases t <;> simp only [hasType, Bool.false_eq_true] at ht
    rw [read_text]
    exact (reads_text (of_decide_eq_true hf)).bind_pure rfl
  | .bytes bs, t, ht, hf => by
    cases t <;> simp only [hasType, Bool.false_eq_true] at ht
    rw [read_bytes]
    exact (reads_bytes (of_decide_eq_true hf)).bind_pure rfl
  | absent, t, ht, _ => by
    cases t <;> simp only [hasType, Bool.false_eq_true] at ht
    rw [read_optional]
    exact (reads_presence false).bind_pure rfl
  | present v, t, ht, hf => by
    cases t <;> simp only [hasType, Bool.false_eq_true] at ht
    rw [read_optional]
    exact (reads_presence true).bind ((reads_merged v ht hf).bind_pure rfl)
  | .sequence vs, t, ht, hf => by
    cases t <;> simp only [hasType, Bool.false_eq_true] at ht
    simp only [fits, Bool.and_eq_true, decide_eq_true_eq] at hf
    rw [read_sequence]
    exact (reads_length hf.1).bind ((reads_allMerged vs ht hf.2).bind_pure rfl)
  | map es, t, ht, hf => by
    cases t <;> simp only [hasType, Bool.false_eq_true] at ht
    simp only [fits, Bool.and_eq_true, decide_eq_true_eq] at hf
    rw [read_map]
    exact (reads_length hf.1).bind ((reads_entriesMerged es [] ht hf.2).bind_pure rfl)
  | record vs, t, ht, hf => by
    cases t <;> simp only [hasType, Bool.false_eq_true] at ht
    split at ht
    · next hs =>
      rw [read_record S hs]
      exact (reads_fieldsMerged vs ht hf).bind_pure rfl
    · cases ht
  | variant tag vs, t, ht, hf => by
    cases t <;> simp only [hasType, Bool.false_eq_true] at ht
    split at ht
    · cases ht
    · next hs =>
      split at ht
      · next c hc =>
        obtain rfl : c.tag = tag := by simpa using List.find?_some hc
        rw [read_choice S hs]
        refine (reads_tag c.tag).bind ?_
        rw [hc]
        exact (reads_fieldsMerged vs ht hf).bind_pure rfl
      · cases ht
theorem reads_allMerged : ∀ (vs : List Value) {t : WireType}, allHaveType S t vs = true →
    allFit vs = true → Reads (S.readMany t vs.length) (encodeAll vs) (allMerged vs)
  | [], t, _, _ => by
    rw [List.length_nil, readMany_zero]
    exact reads_pure _
  | v :: vs, t, ht, hf => by
    simp only [allHaveType, Bool.and_eq_true] at ht
    simp only [allFit, Bool.and_eq_true] at hf
    rw [List.length_cons, readMany_succ]
    exact (reads_merged v ht.1 hf.1).bind ((reads_allMerged vs ht.2 hf.2).bind_pure rfl)
/-- The entries are put into the map `m` that has been read so far. -/
theorem reads_entriesMerged : ∀ (es m : List (Value × Value)) {k v : WireType},
    entriesHaveType S k v es = true → entriesFit es = true →
    Reads (S.readEntries k v es.length m) (encodeEntries es) (gather m (entriesMerged es))
  | [], m, k, v, _, _ => by
    rw [List.length_nil, readEntries_zero]
    exact reads_pure _
  | e :: es, m, k, v, ht, hf => by
    simp only [entriesHaveType, Bool.and_eq_true] at ht
    simp only [entriesFit, Bool.and_eq_true] at hf
    rw [List.length_cons, readEntries_succ]
    refine (reads_merged e.1 ht.1.1 hf.1.1).bind ((reads_merged e.2 ht.1.2 hf.1.2).bind ?_)
    exact reads_entriesMerged es _ ht.2 hf.2
theorem reads_fieldsMerged : ∀ (vs : List Value) {fs : List Field},
    fieldsHaveType S fs vs = true → allFit vs = true →
    Reads (S.readFields fs) (encodeAll vs) (allMerged vs)
  | [], fs, ht, _ => by
    cases fs with
    | nil =>
      rw [readFields_nil]
      exact reads_pure _
    | cons f fs => cases ht
  | v :: vs, fs, ht, hf => by
    cases fs with
    | nil => cases ht
    | cons f fs =>
      simp only [fieldsHaveType, Bool.and_eq_true] at ht
      simp only [allFit, Bool.and_eq_true] at hf
      rw [readFields_cons]
      exact (reads_merged v ht.1 hf.1).bind ((reads_fieldsMerged vs ht.2 hf.2).bind_pure rfl)
end

/-- **Every value is read back** from its encoding, whatever follows it. -/
theorem reads_encode (v : Value) {t : WireType} (typed : v.hasType S t = true)
    (bounded : v.fits = true) (distinct : v.keyed = true) : Reads (S.read t) v.encode v := by
  have h := S.reads_merged v typed bounded
  rwa [merged_of_keyed v distinct] at h

/-- **Round trip.**  Let `w` be a value `v` of a type with the entries of its maps in the order in
which they are written.  A region with room for `v` takes all of `w`, and from the bytes written
there, whatever follows them, `w` is read back and no byte more. -/
theorem read_write {t : WireType} {v w : Value} (typed : v.hasType S t = true)
    (bounded : v.fits = true) (distinct : v.keyed = true) (order : v.Alike w) {room : Region}
    (enough : v.encodedLength ≤ room.available) (p : Nat) (rest : Bytes) :
    ∃ bs, w.write room = .ok () (room.push bs) ∧ bs.length = v.encodedLength ∧
      S.read t ⟨p, bs ++ rest⟩ = .ok w ⟨p + bs.length, rest⟩ := by
  have m := order.matched
  have hf : w.fits = true := m.fits ▸ bounded
  refine ⟨w.encode, ?_, ?_, ?_⟩
  · exact w.write_eq hf (m.length ▸ enough)
  · rw [length_encode, m.length]
  · exact S.reads_encode w (m.type S t ▸ typed) hf (m.keyed ▸ distinct) p rest

/-- A hole around a circle whose radius is not a number. -/
def hole : Value :=
  .variant (-3) [.sequence [.variant 2 [.scalar ⟨.f64, 0x7ff8000000000001⟩]], .unit]

/-- Two shapes by name are read back in the order in which they were written. -/
theorem read_write_shapes :
    ∃ bs, (Value.map [(.text "b", .variant 1 []), (.text "a", hole)]).write
        (.fresh (List.replicate 40 7)) = .ok () (Region.push (.fresh (List.replicate 40 7)) bs) ∧
      bs.length = (Value.map [(.text "a", hole), (.text "b", .variant 1 [])]).encodedLength ∧
      Sample.schema.read (.map .text (.named "Shape")) ⟨0, bs ++ [1]⟩ =
        .ok (.map [(.text "b", .variant 1 []), (.text "a", hole)]) ⟨0 + bs.length, [1]⟩ :=
  Sample.schema.read_write (by decide) (by decide) (by decide) (.map (.swap ..)) (by decide) 0 [1]

end Schema

end CallBoundary
