import CallBoundary.Text.Utf8

/-!
# What can go wrong with an encoding

One cause per constructor, with the wording of each in `WireError.message`.  The first seven arise
while reading, the next two while writing, the last three in handling the buffer itself.
-/

namespace CallBoundary

/-- Why an encoding could not be read or written, or its buffer not be used. -/
inductive WireError where
  /-- Fewer bytes are left than the next item takes. -/
  | truncated (needed remaining : Nat)
  /-- Bytes are left after the value. -/
  | trailing (count : Nat)
  /-- No variant of the type has this tag. -/
  | unknownTag (typeName : String) (tag : Int)
  /-- An optional value's presence byte is neither 0 nor 1. -/
  | badPresence (byte : UInt8)
  /-- A truth value's byte is neither 0 nor 1. -/
  | badBool (byte : Int)
  /-- A length or count is below zero. -/
  | negativeLength (length : Int)
  /-- The bytes of a text are not UTF-8. -/
  | badText (fault : TextFault)
  /-- An item does not fit into the room left. -/
  | overflow (needed available : Nat)
  /-- A length or count does not fit its four bytes. -/
  | tooLarge (length : Nat)
  /-- A buffer without data claims a capacity. -/
  | missingData (capacity : Nat)
  /-- A buffer claims more bytes than it has room for. -/
  | lengthExceedsCapacity (length capacity : Nat)
  /-- The allocator refused. -/
  | allocation (reason : String)
deriving DecidableEq, Repr

/-- The wording of an error. -/
def WireError.message : WireError → String
  | truncated n r => s!"Unexpected end of buffer: needed {n} bytes, {r} remaining"
  | trailing n => s!"Buffer still holds {n} unread bytes after decoding"
  | unknownTag name tag => s!"Invalid discriminant {tag} for {name}"
  | badPresence b => s!"Invalid presence byte {b} for optional value"
  | badBool b => s!"Invalid boolean byte {b}"
  | negativeLength n => s!"Negative length prefix: {n}"
  | badText f => s!"Invalid UTF-8 in string: {f.message}"
  | overflow n a => s!"Write of {n} bytes overflows the buffer ({a} available)"
  | tooLarge n => s!"Value of {n} bytes does not fit a 32-bit length prefix"
  | missingData c => s!"Buffer has null data but capacity {c}"
  | lengthExceedsCapacity l c => s!"Buffer length {l} exceeds capacity {c}"
  | allocation reason => s!"Buffer allocation failed: {reason}"

end CallBoundary
