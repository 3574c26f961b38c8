import CallBoundary.Bytes
import CallBoundary.Text.Utf8

/-!
# Signatures

Both sides of the boundary carry a checksum of the signature of every function, and compare them
before the first call.  The checksum folds the 64-bit FNV-1a hash of the signature's text into 16
bits.
-/

namespace CallBoundary.Signature

/-- The version of the calling contract. -/
def contractVersion : UInt32 := 26

/-- The 64-bit FNV-1a hash. -/
def hash (bs : Bytes) : UInt64 :=
  bs.foldl (fun h b => (h ^^^ b.toUInt64) * 0x100000001b3) 0xcbf29ce484222325

/-- The exclusive or of the four 16-bit lanes of a word. -/
def fold (h : UInt64) : UInt16 :=
  h.toUInt16 ^^^ (h >>> 16).toUInt16 ^^^ (h >>> 32).toUInt16 ^^^ (h >>> 48).toUInt16

/-- The checksum of a signature. -/
def checksum (signature : String) : UInt16 := fold (hash (encodeText signature))

end CallBoundary.Signature
