import CallBoundary.Proofs.Outcome
import CallBoundary.Proofs.Wire.WellFormed

/-!
# Writing a value

A value whose lengths fit is written as its encoding, as far as there is room: whole wherever there
is room for it (`write_eq`), and elsewhere a piece of it, with the error that the next piece does not
fit (`appends_encode`).  The encoding takes `encodedLength` bytes (`length_encode`), so that this is
just the room that a value needs, and nothing around what is written changes (`write_appends`).
Nothing else is ever written by one who succeeds (`writes_encode`), and no value that does not fit
(`fits_of_write`).
-/

namespace CallBoundary

/-! ### Pieces -/

namespace Region

theorem push_nil (r : Region) : r.push [] = r := by
  simp [push]

theorem push_push (r : Region) (bs cs : Bytes) : (r.push bs).push cs = r.push (bs ++ cs) := by
  simp [push, List.drop_drop]

theorem available_push (r : Region) (bs : Bytes) :
    (r.push bs).available = r.available - bs.length := by
  simp [push, available]

theorem position_push (r : Region) (bs : Bytes) :
    (r.push bs).position = r.position + bs.length := by
  simp [push, position, Nat.add_comm]

theorem take_contents (r : Region) : r.contents.take r.position = r.written := by
  rw [contents, ← length_written, List.take_left]

theorem drop_contents (r : Region) (n : Nat) :
    r.contents.drop (r.position + n) = r.room.drop n := by
  rw [contents, ← length_written, List.drop_length_add_append]

/-- What is pushed comes right after what was written before. -/
theorem push_between (r : Region) (bs : Bytes) : (r.push bs).written.drop r.position = bs := by
  rw [written_push, ← length_written, List.drop_left]

theorem push_before (r : Region) (bs : Bytes) :
    (r.push bs).contents.take r.position = r.contents.take r.position := by
  have hle : r.position ≤ (r.push bs).position := by
    rw [position_push]
    omega
  have htake := congrArg (List.take r.position) (take_contents (r.push bs))
  rw [List.take_take, Nat.min_eq_left hle] at htake
  rw [htake, written_push, take_contents, ← length_written, List.take_left]

theorem push_after (r : Region) (bs : Bytes) :
    (r.push bs).contents.drop (r.push bs).position = r.contents.drop (r.push bs).position := by
  have hroom : (r.push bs).contents.drop (r.push bs).position = (r.push bs).room :=
    drop_contents (r.push bs) 0
  rw [hroom, position_push, drop_contents]
  rfl

end Region

namespace Writer

theorem put_eq {bs : Bytes} {r : Region} (h : bs.length ≤ r.available) :
    put bs r = .ok () (r.push bs) := by
  rw [put_apply, if_pos h]

/-- A writer of these bytes: it writes all of them where there is room, and elsewhere the first of
them, until something does not fit. -/
structure Appends (w : Writer Unit) (bs : Bytes) : Prop where
  whole : ∀ r : Region, bs.length ≤ r.available → w r = .ok () (r.push bs)
  partly : ∀ r : Region, r.available < bs.length → ∃ k needed, k ≤ r.available ∧
    r.available - k < needed ∧ w r = .error (.overflow needed (r.available - k)) (r.push (bs.take k))

theorem appends_pure : Appends (pure ()) [] := by
  constructor
  · intro r _
    rw [Region.push_nil]
    rfl
  · intro r h
    exact absurd h (Nat.not_lt_zero _)

theorem appends_put (bs : Bytes) : Appends (put bs) bs := by
  constructor
  · intro r h
    exact put_eq h
  · intro r h
    refine ⟨0, bs.length, Nat.zero_le _, h, ?_⟩
    rw [put_apply, if_neg (Nat.not_le.2 h), List.take_zero, Region.push_nil, Nat.sub_zero]

theorem appends_length {n : Nat} (hn : n ≤ maxLength) : Appends (length n) (bigEndian 4 n) := by
  unfold length
  rw [if_pos hn]
  exact appends_put _

theorem Appends.seq {m k : Writer Unit} {bs cs : Bytes} (hm : m.Appends bs) (hk : k.Appends cs) :
    Appends (m >>= fun _ => k) (bs ++ cs) := by
  constructor
  · intro r h
    rw [List.length_append] at h
    rw [bind_of_ok (hm.whole r (by omega)), hk.whole _ (by rw [Region.available_push]; omega),
      Region.push_push]
  · intro r h
    rw [List.length_append] at h
    by_cases room : bs.length ≤ r.available
    · -- the first writer is done, and the second one stops
      have hshort : (r.push bs).available < cs.length := by
        rw [Region.available_push]
        omega
      obtain ⟨j, needed, hj, hlt, hrun⟩ := hk.partly _ hshort
      rw [Region.available_push] at hj hlt hrun
      refine ⟨bs.length + j, needed, by omega, by omega, ?_⟩
      rw [bind_of_ok (hm.whole r room), hrun, Region.push_push, List.take_length_add_append,
        Nat.sub_sub]
    · obtain ⟨j, needed, hj, hlt, hrun⟩ := hm.partly r (by omega)
      refine ⟨j, needed, hj, hlt, ?_⟩
      rw [bind_of_error hrun, List.take_append_of_le_length (by omega)]

/-- All of the bytes are pushed, or the first of them and the next item does not fit. -/
theorem Appends.runOn_eq {w : Writer Unit} {bs : Bytes} (hw : w.Appends bs) (r : Region) :
    bs.length ≤ r.available ∧ w.runOn r = (.ok (), r.push bs) ∨
    r.available < bs.length ∧ ∃ cs needed, cs <+: bs ∧ (r.push cs).available < needed ∧
      w.runOn r = (.error (.overflow needed (r.push cs).available), r.push cs) := by
  by_cases room : bs.length ≤ r.available
  · refine .inl ⟨room, ?_⟩
    rw [runOn, hw.whole r room]
  · have hshort := Nat.not_le.1 room
    obtain ⟨k, needed, hk, hlt, hrun⟩ := hw.partly r hshort
    have hlen : (bs.take k).length = k := List.length_take_of_le (by omega)
    refine .inr ⟨hshort, bs.take k, needed, List.take_prefix k bs, ?_, ?_⟩
    · rwa [Region.available_push, hlen]
    · rw [runOn, hrun, Region.available_push, hlen]

/-- Whenever the writer succeeds, there was room for just these bytes and it wrote them. -/
def Writes (w : Writer Unit) (bs : Bytes) : Prop :=
  ∀ r r', w r = .ok () r' → bs.length ≤ r.available ∧ r' = r.push bs

theorem Appends.writes {w : Writer Unit} {bs : Bytes} (hw : w.Appends bs) : w.Writes bs := by
  intro r r' h
  by_cases room : bs.length ≤ r.available
  · rw [hw.whole r room] at h
    cases h
    exact ⟨room, rfl⟩
  · obtain ⟨k, needed, -, -, hrun⟩ := hw.partly r (Nat.not_le.1 room)
    rw [hrun] at h
    cases h

end Writer

namespace Value

/-! ### The length of an encoding -/

mutual
theorem length_encode : ∀ v : Value, v.encode.length = v.encodedLength
  | unit => rfl
  | bool b => rfl
  | scalar s => by simp [encode, encodedLength]
  | text s => by simp [encode, encodedLength]
  | bytes bs => by simp [encode, encodedLength]
  | absent => rfl
  | present v => by simp [encode, encodedLength, length_encode v]; omega
  | sequence vs => by simp [encode, encodedLength, length_encodeAll vs]
  | map es => by simp [encode, encodedLength, length_encodeEntries es]
  | record fs => by simp [encode, encodedLength, length_encodeAll fs]
  | variant tag fs => by simp [encode, encodedLength, length_encodeAll fs]
theorem length_encodeAll : ∀ vs : List Value, (encodeAll vs).length = allLength vs
  | [] => rfl
  | v :: vs => by simp [encodeAll, allLength, length_encode v, length_encodeAll vs]
theorem length_encodeEntries :
    ∀ es : List (Value × Value), (encodeEntries es).length = entriesLength es
  | [] => rfl
  | e :: es => by
    simp [encodeEntries, entriesLength, length_encode e.1, length_encode e.2,
      length_encodeEntries es]
    omega
end

/-! ### What can be written at all -/

theorem le_of_length_ok {n : Nat} {r r' : Region} (h : Writer.length n r = .ok () r') :
    n ≤ maxLength := by
  unfold Writer.length at h
  split at h
  · assumption
  · cases h

mutual
/-- **Who succeeds in writing a value has one that fits.** -/
theorem fits_of_write : ∀ (v : Value) {r r' : Region}, v.write r = .ok () r' → v.fits = true
  | unit, _, _, _ => rfl
  | bool _, _, _, _ => rfl
  | scalar _, _, _, _ => rfl
  | text s, _, _, h => by
    obtain ⟨⟨⟩, r₁, hn, -⟩ := bind_ok h
    exact decide_eq_true (le_of_length_ok hn)
  | bytes bs, _, _, h => by
    obtain ⟨⟨⟩, r₁, hn, -⟩ := bind_ok h
    exact decide_eq_true (le_of_length_ok hn)
  | absent, _, _, _ => rfl
  | present v, _, _, h => by
    obtain ⟨⟨⟩, r₁, -, hv⟩ := bind_ok h
    exact fits_of_write v hv
  | sequence vs, _, _, h => by
    obtain ⟨⟨⟩, r₁, hn, hvs⟩ := bind_ok h
    rw [fits, fits_of_writeAll vs hvs, Bool.and_true]
    exact decide_eq_true (le_of_length_ok hn)
  | map es, _, _, h => by
    obtain ⟨⟨⟩, r₁, hn, hes⟩ := bind_ok h
    rw [fits, fits_of_writeEntries es hes, Bool.and_true]
    exact decide_eq_true (le_of_length_ok hn)
  | record fs, _, _, h => fits_of_writeAll fs h
  | variant _ fs, _, _, h => by
    obtain ⟨⟨⟩, r₁, -, hfs⟩ := bind_ok h
    exact fits_of_writeAll fs hfs
theorem fits_of_writeAll : ∀ (vs : List Value) {r r' : Region},
    writeAll vs r = .ok () r' → allFit vs = true
  | [], _, _, _ => rfl
  | v :: vs, _, _, h => by
    obtain ⟨⟨⟩, r₁, hv, hvs⟩ := bind_ok h
    rw [allFit, fits_of_write v hv, fits_of_writeAll vs hvs]
    rfl
theorem fits_of_writeEntries : ∀ (es : List (Value × Value)) {r r' : Region},
    writeEntries es r = .ok () r' → entriesFit es = true
  | [], _, _, _ => rfl
  | e :: es, _, _, h => by
    obtain ⟨⟨⟩, r₁, hk, hrest⟩ := bind_ok h
    obtain ⟨⟨⟩, r₂, hv, hes⟩ := bind_ok hrest
    rw [entriesFit, fits_of_write e.1 hk, fits_of_write e.2 hv, fits_of_writeEntries es hes]
    rfl
end

/-! ### Writing values -/

mutual
/-- **A value that fits is written as its encoding**, as far as there is room. -/
theorem appends_encode : ∀ v : Value, v.fits = true → v.write.Appends v.encode
  | unit, _ => Writer.appends_pure
  | bool _, _ => Writer.appends_put _
  | scalar s, _ => Writer.appends_put s.encode
  | text s, hf =>
    (Writer.appends_length (of_decide_eq_true hf)).seq (Writer.appends_put (encodeText s))
  | bytes bs, hf => (Writer.appends_length (of_decide_eq_true hf)).seq (Writer.appends_put bs)
  | absent, _ => Writer.appends_put _
  | present v, hf => (Writer.appends_put [1]).seq (appends_encode v hf)
  | sequence vs, hf => by
    simp only [fits, Bool.and_eq_true, decide_eq_true_eq] at hf
    exact (Writer.appends_length hf.1).seq (appends_encodeAll vs hf.2)
  | map es, hf => by
    simp only [fits, Bool.and_eq_true, decide_eq_true_eq] at hf
    exact (Writer.appends_length hf.1).seq (appends_encodeEntries es hf.2)
  | record fs, hf => appends_encodeAll fs hf
  | variant tag fs, hf =>
    (Writer.appends_put (bigEndian 4 tag.toNat)).seq (appends_encodeAll fs hf)
theorem appends_encodeAll : ∀ vs : List Value, allFit vs = true →
    (writeAll vs).Appends (encodeAll vs)
  | [], _ => Writer.appends_pure
  | v :: vs, hf => by
    simp only [allFit, Bool.and_eq_true] at hf
    exact (appends_encode v hf.1).seq (appends_encodeAll vs hf.2)
theorem appends_encodeEntries : ∀ es : List (Value × Value), entriesFit es = true →
    (writeEntries es).Appends (encodeEntries es)
  | [], _ => Writer.appends_pure
  | e :: es, hf => by
    simp only [entriesFit, Bool.and_eq_true] at hf
    exact (appends_encode e.1 hf.1.1).seq
      ((appends_encode e.2 hf.1.2).seq (appends_encodeEntries es hf.2))
end

/-- **A value that fits is written whole** wherever there is room for it. -/
theorem write_eq (v : Value) {r : Region} (hf : v.fits = true)
    (h : v.encodedLength ≤ r.available) : v.write r = .ok () (r.push v.encode) :=
  (v.appends_encode hf).whole r (by rwa [length_encode])

/-- **Who succeeds in writing a value has written its encoding.** -/
theorem writes_encode (v : Value) : v.write.Writes v.encode :=
  fun r r' h => (v.appends_encode (fits_of_write v h)).writes r r' h

/-- What writing a value does to a region. -/
structure Appended (v : Value) (r : Region) (result : Except WireError Unit) (r' : Region) :
    Prop where
  ok_iff : result = .ok () ↔ v.encodedLength ≤ r.available
  overflow : ∀ e, result = .error e →
    ∃ needed, e = .overflow needed r'.available ∧ r'.available < needed
  whole : result = .ok () → r'.position = r.position + v.encodedLength
  onward : r.position ≤ r'.position
  /-- What stands between the two positions is how the encoding begins. -/
  between : r'.written.drop r.position <+: v.encode
  before : r'.contents.take r.position = r.contents.take r.position
  after : r'.contents.drop r'.position = r.contents.drop r'.position

/-- **Writing is a bounded append.**  A value whose lengths fit is written if and only if there is
room for as many bytes as its encoding is long; if there is not, what is written is how the encoding
begins.  What stands before and after it stays as it was. -/
theorem write_appends {v : Value} (bounded : v.fits = true) (r : Region) :
    v.Appended r (v.write.runOn r).1 (v.write.runOn r).2 := by
  have hrun := (v.appends_encode bounded).runOn_eq r
  rw [length_encode] at hrun
  rcases hrun with ⟨room, hrun⟩ | ⟨hshort, bs, needed, hbs, hlt, hrun⟩
  · rw [hrun]
    constructor
    · simp [room]
    · exact nofun
    · intro _
      rw [Region.position_push, length_encode]
    · simp [Region.position_push]
    · simp only [Region.push_between, List.prefix_rfl]
    · exact r.push_before v.encode
    · exact r.push_after v.encode
  · rw [hrun]
    constructor
    · simp [Nat.not_le.2 hshort]
    · rintro e ⟨⟩
      exact ⟨needed, rfl, hlt⟩
    · exact nofun
    · simp [Region.position_push]
    · rwa [Region.push_between]
    · exact r.push_before bs
    · exact r.push_after bs

/-- Of two words in a sequence there is room for the first. -/
theorem write_appends_cut :
    let words := sequence [text "ab", text "cd"]
    let room : Region := ⟨[9], List.replicate 11 7⟩
    let left : Region := ⟨(words.encode.take 10).reverse ++ [9], [7]⟩
    words.fits = true ∧ words.Appended room (.error (.overflow 4 1)) left := by
  intro words room left
  have bounded : words.fits = true := by decide
  have hrun : words.write.runOn room = (.error (.overflow 4 1), left) := rfl
  have h := write_appends bounded room
  rw [hrun] at h
  exact ⟨bounded, h⟩

end Value

end CallBoundary
