import CallBoundary.Text.Utf8

/-!
# Reading whole texts without loss

The lossy reading of bytes takes one character after the other from the front, so that it changes
nothing where there is nothing ill-formed: `decodeLossy_encodeText`.  Where there is, it puts a
character for every ill-formed part, so that no bytes read as no text (`decodeLossy_eq_empty`).
-/

namespace CallBoundary

theorem encodeText_ofList (cs : List Char) :
    encodeText (String.ofList cs) = cs.flatMap String.utf8EncodeChar := by
  simp [encodeText, List.utf8Encode]

theorem encodeText_eq (s : String) : encodeText s = s.toList.flatMap String.utf8EncodeChar := by
  rw [← encodeText_ofList, String.ofList_toList]

theorem length_encodeText_append (s t : String) :
    (encodeText (s ++ t)).length = (encodeText s).length + (encodeText t).length := by
  simp [encodeText]

/-- A text takes at most four bytes for each character. -/
theorem length_encodeText_le (s : String) : (encodeText s).length ≤ 4 * s.length := by
  have hchars : ∀ cs : List Char, (cs.flatMap String.utf8EncodeChar).length ≤ 4 * cs.length := by
    intro cs
    induction cs with
    | nil => exact Nat.zero_le _
    | cons c cs ih =>
      have hc : (String.utf8EncodeChar c).length ≤ 4 := by
        rw [String.length_utf8EncodeChar]
        exact c.utf8Size_le_four
      rw [List.flatMap_cons, List.length_append, List.length_cons]
      omega
  rw [encodeText_eq]
  exact hchars s.toList

/-- The first character is found whatever follows it. -/
theorem frontChar?_append (c : Char) (bs : Bytes) :
    frontChar? (String.utf8EncodeChar c ++ bs) = some c := by
  have hlen : (String.utf8EncodeChar c).length ≤ 4 := by
    rw [String.length_utf8EncodeChar]
    exact c.utf8Size_le_four
  have htake : (String.utf8EncodeChar c ++ bs).take 4 =
      String.utf8EncodeChar c ++ bs.take (4 - (String.utf8EncodeChar c).length) := by
    rw [List.take_append, List.take_of_length_le hlen]
  rw [frontChar?, htake, List.toByteArray_append]
  exact ByteArray.utf8DecodeChar?_utf8EncodeChar_append

theorem lossyChars_flatMap (cs : List Char) :
    lossyChars (cs.flatMap String.utf8EncodeChar) = cs := by
  induction cs with
  | nil => rw [List.flatMap_nil, lossyChars, if_pos rfl]
  | cons c cs ih =>
    have hne : String.utf8EncodeChar c ++ cs.flatMap String.utf8EncodeChar ≠ [] := by simp
    rw [List.flatMap_cons, lossyChars, if_neg hne, frontChar?_append]
    simp only
    rw [← String.length_utf8EncodeChar c, List.drop_left, ih]

/-- **A text is read without loss.** -/
theorem decodeLossy_encodeText (s : String) : decodeLossy (encodeText s) = s := by
  rw [decodeLossy, encodeText_eq, lossyChars_flatMap, String.ofList_toList]

/-! ### Empty texts -/

theorem lossyChars_eq_nil {bs : Bytes} : lossyChars bs = [] ↔ bs = [] := by
  rw [lossyChars]
  split
  · next h => exact iff_of_true rfl h
  · next h =>
    refine iff_of_false ?_ h
    -- whether or not the front is well-formed, a character stands for it
    split
    · exact List.cons_ne_nil _ _
    · split <;> exact List.cons_ne_nil _ _

/-- Only no bytes read as no text. -/
theorem decodeLossy_eq_empty {bs : Bytes} : decodeLossy bs = "" ↔ bs = [] := by
  rw [← lossyChars_eq_nil, decodeLossy, ← String.toList_inj, String.toList_ofList]
  rfl

theorem decodeText_empty {bs : Bytes} : decodeText bs = .ok "" ↔ bs = [] := by
  have hnil : encodeText "" = [] := rfl
  constructor
  · intro h
    rw [← encodeText_of_decodeText h, hnil]
  · rintro rfl
    exact decodeText_encodeText ""

end CallBoundary
