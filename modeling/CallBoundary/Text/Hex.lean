import CallBoundary.Bytes

/-!
# Bytes as hexadecimal text

Two lower-case digits a byte, the high half first.  `ofHex?_toHex` says that nothing is lost.
-/

namespace CallBoundary.Text

/-- The digit of a number below 16. -/
def hexDigit (n : Nat) : Char := Nat.digitChar n

/-- The number of a lower-case digit. -/
def hexValue? (c : Char) : Option Nat := (List.range 16).find? (hexDigit · = c)

/-- The digits of a byte. -/
def hexByte (b : UInt8) : List Char := [hexDigit (b.toNat / 16), hexDigit (b.toNat % 16)]

/-- The hexadecimal text of some bytes. -/
def toHex (bs : Bytes) : String := .ofList (bs.flatMap hexByte)

/-- The bytes that digits spell. -/
def ofHexDigits? : List Char → Option Bytes
  | [] => some []
  | [_] => none
  | a :: b :: cs => do
    let high ← hexValue? a
    let low ← hexValue? b
    let rest ← ofHexDigits? cs
    return (16 * high + low).toUInt8 :: rest

/-- The bytes that a hexadecimal text spells. -/
def ofHex? (s : String) : Option Bytes := ofHexDigits? s.toList

theorem hexValue?_hexDigit : ∀ n < 16, hexValue? (hexDigit n) = some n := by decide

theorem ofHexDigits?_hexByte (b : UInt8) (cs : List Char) :
    ofHexDigits? (hexByte b ++ cs) = (ofHexDigits? cs).map (b :: ·) := by
  have hb := b.toNat_lt
  have hs : (16 * (b.toNat / 16) + b.toNat % 16).toUInt8 = b := by
    rw [Nat.div_add_mod]
    exact UInt8.ofNat_toNat
  simp only [hexByte, List.cons_append, List.nil_append, ofHexDigits?,
    hexValue?_hexDigit _ (show b.toNat / 16 < 16 by omega),
    hexValue?_hexDigit _ (Nat.mod_lt _ (by decide)), Option.bind_eq_bind, Option.bind_some, hs]
  cases ofHexDigits? cs <;> rfl

theorem ofHex?_toHex (bs : Bytes) : ofHex? (toHex bs) = some bs := by
  suffices ofHexDigits? (bs.flatMap hexByte) = some bs by simpa [ofHex?, toHex] using this
  induction bs with
  | nil => rfl
  | cons b bs ih => simp [ofHexDigits?_hexByte, ih]

end CallBoundary.Text
