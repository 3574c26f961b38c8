import CallBoundary.Bytes

/-!
# Reading text

Text is UTF-8.  `decodeText` accepts exactly the well-formed byte runs, `decodeLossy` reads any
run by putting U+FFFD for each ill-formed part, and `TextFault` says where the first ill-formed
part is.  An ill-formed part is maximal: the longest run that begins some character and is not
continued to one, or a single byte that begins none.

* `decodeText_encodeText`: every text reads back from its encoding;
* `encodeText_of_decodeText`: a text has one encoding.
-/

namespace CallBoundary

/-- The UTF-8 encoding of a text. -/
def encodeText (s : String) : Bytes := s.toByteArray.data.toList

/-- Where a byte run stops being text: after `validUpTo` bytes, in an ill-formed part of `length`
bytes, or, without a length, in a character that the end of the run cuts off. -/
structure TextFault where
  validUpTo : Nat
  length : Option Nat
deriving DecidableEq, Repr

/-- The wording of a fault. -/
def TextFault.message (f : TextFault) : String :=
  match f.length with
  | some n => s!"invalid utf-8 sequence of {n} bytes from index {f.validUpTo}"
  | none => s!"incomplete utf-8 byte sequence from index {f.validUpTo}"

/-- The character at the front of a byte run, if a whole one stands there. -/
def frontChar? (bs : Bytes) : Option Char := (bs.take 4).toByteArray.utf8DecodeChar? 0

/-- The bytes that may follow a first byte: how many, and the range of the first of them.  The
others lie in `0x80 … 0xBF`. -/
def continuation (first : UInt8) : Nat × UInt8 × UInt8 :=
  if 0xC2 ≤ first ∧ first ≤ 0xDF then (1, 0x80, 0xBF)
  else if first = 0xE0 then (2, 0xA0, 0xBF)
  else if first = 0xED then (2, 0x80, 0x9F)
  else if 0xE1 ≤ first ∧ first ≤ 0xEF then (2, 0x80, 0xBF)
  else if first = 0xF0 then (3, 0x90, 0xBF)
  else if 0xF1 ≤ first ∧ first ≤ 0xF3 then (3, 0x80, 0xBF)
  else if first = 0xF4 then (3, 0x80, 0x8F)
  else (0, 0x80, 0xBF)

/-- The bytes after a first byte that continue its character. -/
def followers (first : UInt8) (rest : Bytes) : Bytes :=
  let (more, low, high) := continuation first
  match rest with
  | [] => []
  | c :: cs =>
    if low ≤ c ∧ c ≤ high then
      c :: (cs.take (more - 1)).takeWhile (fun d => 0x80 ≤ d ∧ d ≤ 0xBF)
    else []

/-- The length of the ill-formed part at the front of a byte run, none if the run ends inside a
character. -/
def illFormedLength : Bytes → Option Nat
  | [] => none
  | b :: rest =>
    if (continuation b).1 ≤ (followers b rest).length ∨ (followers b rest).length < rest.length then
      some (1 + min (continuation b).1 (followers b rest).length)
    else none

theorem illFormedLength_pos {bs : Bytes} {n : Nat} (h : illFormedLength bs = some n) : 0 < n := by
  cases bs with
  | nil => simp [illFormedLength] at h
  | cons b rest =>
    simp only [illFormedLength, Option.ite_none_right_eq_some, Option.some.injEq] at h
    omega

/-- The first fault of a byte run whose `index` earlier bytes are text. -/
def firstFault (index : Nat) (bs : Bytes) : Option TextFault :=
  if bs = [] then none
  else match frontChar? bs with
    | some c => firstFault (index + c.utf8Size) (bs.drop c.utf8Size)
    | none => some ⟨index, illFormedLength bs⟩
termination_by bs.length
decreasing_by
  have := List.length_pos_iff.2 ‹¬bs = []›
  have := c.utf8Size_pos
  simp only [List.length_drop]
  omega

/-- The text of a byte run, or its first fault. -/
def decodeText (bs : Bytes) : Except TextFault String :=
  if h : bs.toByteArray.IsValidUTF8 then .ok (.ofByteArray bs.toByteArray h)
  else .error ((firstFault 0 bs).getD ⟨0, none⟩)

/-- The characters of a byte run, with U+FFFD for each ill-formed part. -/
def lossyChars (bs : Bytes) : List Char :=
  if bs = [] then []
  else match frontChar? bs with
    | some c => c :: lossyChars (bs.drop c.utf8Size)
    | none => match _h : illFormedLength bs with
      | some n => '\uFFFD' :: lossyChars (bs.drop n)
      | none => ['\uFFFD']
termination_by bs.length
decreasing_by
  · have := List.length_pos_iff.2 ‹¬bs = []›
    have := c.utf8Size_pos
    simp only [List.length_drop]
    omega
  · have := List.length_pos_iff.2 ‹¬bs = []›
    have := illFormedLength_pos _h
    simp only [List.length_drop]
    omega

/-- The text of any byte run. -/
def decodeLossy (bs : Bytes) : String := String.ofList (lossyChars bs)

theorem toByteArray_encodeText (s : String) : (encodeText s).toByteArray = s.toByteArray := by
  apply ByteArray.ext
  simp [encodeText]

theorem decodeText_encodeText (s : String) : decodeText (encodeText s) = .ok s := by
  have h : (encodeText s).toByteArray.IsValidUTF8 := by
    rw [toByteArray_encodeText]; exact s.isValidUTF8
  rw [decodeText, dif_pos h]
  congr 1
  apply String.toByteArray_inj.1
  exact toByteArray_encodeText s

theorem encodeText_of_decodeText {bs : Bytes} {s : String} (h : decodeText bs = .ok s) :
    encodeText s = bs := by
  unfold decodeText at h
  split at h
  · cases h
    simp [encodeText]
  · cases h

end CallBoundary
