/-!
# Bytes and big-endian numbers

Everything that crosses the boundary is a list of bytes.  Numbers are written with the most
significant byte first, in as many bytes as their width says:

* `bigEndian_length`: a number takes exactly its width;
* `ofBigEndian_bigEndian`: reading back gives the number modulo `spellings width`;
* `bigEndian_ofBigEndian`: bytes are the only spelling of the number they stand for.
-/

namespace CallBoundary

/-- A run of bytes. -/
abbrev Bytes := List UInt8

/-- How many numbers there are that so many bytes can spell. -/
def spellings : (width : Nat) → Nat
  | 0 => 1
  | w + 1 => 256 * spellings w

/-- The `width` low bytes of `n`, most significant first. -/
def bigEndian : (width : Nat) → (n : Nat) → Bytes
  | 0, _ => []
  | w + 1, n => (n / spellings w).toUInt8 :: bigEndian w n

/-- The number whose digits in base 256 are these bytes, most significant first. -/
def ofBigEndian (bs : Bytes) : Nat := bs.foldl (fun n b => 256 * n + b.toNat) 0

@[simp] theorem bigEndian_length (w n : Nat) : (bigEndian w n).length = w := by
  induction w with
  | zero => rfl
  | succ w ih => simp [bigEndian, ih]

theorem spellings_pos (w : Nat) : 0 < spellings w := by
  induction w with
  | zero => decide
  | succ w ih => exact Nat.mul_pos (by decide) ih

theorem spellings_add (w k : Nat) : spellings (w + k) = spellings w * spellings k := by
  induction w with
  | zero => rw [Nat.zero_add, spellings, Nat.one_mul]
  | succ w ih => rw [Nat.add_right_comm, spellings, spellings, ih, Nat.mul_assoc]

theorem bigEndian_mod (w n : Nat) : bigEndian w (n % spellings w) = bigEndian w n := by
  suffices h : ∀ k w n, bigEndian w (n % spellings (w + k)) = bigEndian w n from h 0 w n
  intro k w n
  induction w generalizing k with
  | zero => rfl
  | succ w ih =>
    have hd : n % spellings (w + 1 + k) / spellings w = n / spellings w % spellings (k + 1) := by
      rw [show w + 1 + k = w + (k + 1) by omega, spellings_add, Nat.mod_mul_right_div_self]
    have hb : (n / spellings w % spellings (k + 1)).toUInt8 = (n / spellings w).toUInt8 := by
      apply UInt8.toNat.inj
      rw [Nat.toUInt8_eq, Nat.toUInt8_eq, UInt8.toNat_ofNat', UInt8.toNat_ofNat', spellings,
        Nat.mod_mul_right_mod]
    rw [bigEndian, bigEndian, hd, hb]
    congr 1
    rw [show w + 1 + k = w + (k + 1) by omega]
    exact ih (k + 1)

theorem foldl_bigEndian (w n a : Nat) :
    (bigEndian w n).foldl (fun n b => 256 * n + b.toNat) a =
      spellings w * a + n % spellings w := by
  induction w generalizing a with
  | zero => simp [bigEndian, spellings, Nat.mod_one]
  | succ w ih =>
    have hb : (n / spellings w).toUInt8.toNat = n / spellings w % 256 := by
      rw [Nat.toUInt8_eq, UInt8.toNat_ofNat']
    rw [bigEndian, List.foldl_cons, ih, hb, spellings, Nat.mul_comm 256 (spellings w),
      Nat.mod_mul, Nat.mul_add, Nat.mul_assoc, Nat.add_assoc]
    omega

theorem ofBigEndian_bigEndian (w n : Nat) : ofBigEndian (bigEndian w n) = n % spellings w := by
  simpa [ofBigEndian] using foldl_bigEndian w n 0

theorem foldl_ofBigEndian (bs : Bytes) (a : Nat) :
    bs.foldl (fun n b => 256 * n + b.toNat) a = spellings bs.length * a + ofBigEndian bs := by
  unfold ofBigEndian
  induction bs generalizing a with
  | nil => simp [spellings]
  | cons b bs ih =>
    rw [List.foldl_cons, ih, List.foldl_cons, ih (256 * 0 + b.toNat), List.length_cons, spellings,
      Nat.mul_comm 256 (spellings _), Nat.mul_add, Nat.mul_assoc]
    simp [Nat.add_assoc]

theorem ofBigEndian_cons (b : UInt8) (bs : Bytes) :
    ofBigEndian (b :: bs) = spellings bs.length * b.toNat + ofBigEndian bs := by
  have h := foldl_ofBigEndian bs (256 * 0 + b.toNat)
  simpa [ofBigEndian] using h

theorem ofBigEndian_lt (bs : Bytes) : ofBigEndian bs < spellings bs.length := by
  induction bs with
  | nil => simp [ofBigEndian, spellings]
  | cons b bs ih =>
    rw [ofBigEndian_cons, List.length_cons, spellings, Nat.mul_comm 256]
    have hb := b.toNat_lt
    calc spellings bs.length * b.toNat + ofBigEndian bs
        < spellings bs.length * b.toNat + spellings bs.length := by omega
      _ = spellings bs.length * (b.toNat + 1) := by rw [Nat.mul_add, Nat.mul_one]
      _ ≤ spellings bs.length * 256 := Nat.mul_le_mul_left _ (by omega)

theorem bigEndian_ofBigEndian (bs : Bytes) : bigEndian bs.length (ofBigEndian bs) = bs := by
  induction bs with
  | nil => rfl
  | cons b bs ih =>
    have hlt := ofBigEndian_lt bs
    have hd : ofBigEndian (b :: bs) / spellings bs.length = b.toNat := by
      rw [ofBigEndian_cons, Nat.mul_add_div (spellings_pos _), Nat.div_eq_of_lt hlt, Nat.add_zero]
    have hm : ofBigEndian (b :: bs) % spellings bs.length = ofBigEndian bs := by
      rw [ofBigEndian_cons, Nat.mul_add_mod, Nat.mod_eq_of_lt hlt]
    rw [List.length_cons, bigEndian, hd]
    congr 1
    · apply UInt8.toNat.inj
      rw [Nat.toUInt8_eq, UInt8.toNat_ofNat', Nat.mod_eq_of_lt b.toNat_lt]
    · rw [← bigEndian_mod, hm, ih]

end CallBoundary
