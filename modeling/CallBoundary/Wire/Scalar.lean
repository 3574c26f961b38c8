import CallBoundary.Bytes

/-!
# Scalars

A scalar is a word of 8, 16, 32 or 64 bits together with what the word stands for.  The wire
carries the word alone, so floating-point numbers keep their bit patterns, NaN payloads included.
-/

namespace CallBoundary

/-- The scalar types, by signedness and width in bits. -/
inductive ScalarType where
  | u8 | i8 | u16 | i16 | u32 | i32 | u64 | i64 | f32 | f64
deriving DecidableEq, Repr

/-- All scalar types. -/
def ScalarType.all : List ScalarType := [u8, i8, u16, i16, u32, i32, u64, i64, f32, f64]

/-- The name of a scalar type. -/
def ScalarType.name : ScalarType → String
  | u8 => "u8"
  | i8 => "i8"
  | u16 => "u16"
  | i16 => "i16"
  | u32 => "u32"
  | i32 => "i32"
  | u64 => "u64"
  | i64 => "i64"
  | f32 => "f32"
  | f64 => "f64"

/-- The scalar type of a name. -/
def ScalarType.ofName? (s : String) : Option ScalarType := all.find? (·.name = s)

/-- How many bytes a scalar takes on the wire. -/
def ScalarType.width : ScalarType → Nat
  | u8 | i8 => 1
  | u16 | i16 => 2
  | u32 | i32 | f32 => 4
  | u64 | i64 | f64 => 8

/-- How many bits a scalar has. -/
abbrev ScalarType.bits (t : ScalarType) : Nat := 8 * t.width

/-- A word and what it stands for. -/
structure Scalar where
  type : ScalarType
  word : BitVec type.bits
deriving DecidableEq, Repr

instance : Inhabited Scalar := ⟨⟨.u8, 0⟩⟩

namespace Scalar

/-- The bytes of a scalar, most significant first. -/
def encode (s : Scalar) : Bytes := bigEndian s.type.width s.word.toNat

/-- The scalar of a type that these bytes spell. -/
def ofBytes (t : ScalarType) (bs : Bytes) : Scalar := ⟨t, .ofNat _ (ofBigEndian bs)⟩

/-- The number of a type whose bits are zero. -/
def zero (t : ScalarType) : Scalar := ⟨t, 0⟩

/-- The number an integer scalar stands for, read as signed where its type is. -/
def toInt (s : Scalar) : Int :=
  match s.type with
  | .i8 | .i16 | .i32 | .i64 => s.word.toInt
  | _ => s.word.toNat

@[simp] theorem encode_length (s : Scalar) : s.encode.length = s.type.width :=
  bigEndian_length ..

/-- A word is one of the numbers that its bytes can spell. -/
theorem toNat_word_lt (s : Scalar) : s.word.toNat < spellings s.type.width := by
  obtain ⟨t, word⟩ := s
  cases t <;> exact word.isLt

theorem toNat_ofNat_of_lt {t : ScalarType} {n : Nat} (h : n < spellings t.width) :
    (BitVec.ofNat t.bits n).toNat = n := by
  rw [BitVec.toNat_ofNat]
  apply Nat.mod_eq_of_lt
  cases t <;> exact h

theorem ofBytes_encode (s : Scalar) : ofBytes s.type s.encode = s := by
  simp only [ofBytes, encode, ofBigEndian_bigEndian, Nat.mod_eq_of_lt s.toNat_word_lt,
    BitVec.ofNat_toNat, BitVec.setWidth_eq]

theorem encode_ofBytes {t : ScalarType} {bs : Bytes} (h : bs.length = t.width) :
    (ofBytes t bs).encode = bs := by
  have hlt : ofBigEndian bs < spellings t.width := h ▸ ofBigEndian_lt bs
  simp only [ofBytes, encode, toNat_ofNat_of_lt hlt, ← h]
  exact bigEndian_ofBigEndian bs

end Scalar

end CallBoundary
