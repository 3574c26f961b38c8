import CallBoundary.Wire.Value
import CallBoundary.Wire.Writer

/-!
# Encodings

The encoding of a value inside another one: numbers big-endian, texts and byte runs behind their
length, sequences and maps behind their count, optionals behind a presence byte, variants behind
their tag, and the fields of records and variants one after the other.

`encode` is the encoding as a byte run, `encodedLength` its length without building it, and `write`
puts it into a region piece by piece.
-/

namespace CallBoundary.Value

mutual
/-- How many bytes the encoding of a value takes. -/
def encodedLength : Value → Nat
  | unit => 0
  | bool _ => 1
  | scalar s => s.type.width
  | text s => 4 + (encodeText s).length
  | bytes bs => 4 + bs.length
  | absent => 1
  | present v => 1 + encodedLength v
  | sequence vs => 4 + allLength vs
  | map es => 4 + entriesLength es
  | record fs => allLength fs
  | variant _ fs => 4 + allLength fs
/-- How many bytes the encodings of some values take. -/
def allLength : List Value → Nat
  | [] => 0
  | v :: vs => encodedLength v + allLength vs
/-- How many bytes the encodings of some entries take. -/
def entriesLength : List (Value × Value) → Nat
  | [] => 0
  | e :: es => encodedLength e.1 + encodedLength e.2 + entriesLength es
end

mutual
/-- The encoding of a value. -/
def encode : Value → Bytes
  | unit => []
  | bool b => [if b then 1 else 0]
  | scalar s => s.encode
  | text s => bigEndian 4 (encodeText s).length ++ encodeText s
  | bytes bs => bigEndian 4 bs.length ++ bs
  | absent => [0]
  | present v => 1 :: encode v
  | sequence vs => bigEndian 4 vs.length ++ encodeAll vs
  | map es => bigEndian 4 es.length ++ encodeEntries es
  | record fs => encodeAll fs
  | variant tag fs => bigEndian 4 tag.toNat ++ encodeAll fs
/-- The encodings of some values, one after the other. -/
def encodeAll : List Value → Bytes
  | [] => []
  | v :: vs => encode v ++ encodeAll vs
/-- The encodings of some entries, each key before its value. -/
def encodeEntries : List (Value × Value) → Bytes
  | [] => []
  | e :: es => encode e.1 ++ (encode e.2 ++ encodeEntries es)
end

open Writer in
mutual
/-- Writes the encoding of a value. -/
def write : Value → Writer Unit
  | unit => return
  | bool b => put [if b then 1 else 0]
  | scalar s => Writer.scalar s
  | text s => do length (encodeText s).length; put (encodeText s)
  | bytes bs => do length bs.length; put bs
  | absent => put [0]
  | present v => do put [1]; write v
  | sequence vs => do length vs.length; writeAll vs
  | map es => do length es.length; writeEntries es
  | record fs => writeAll fs
  | variant tag fs => do put (bigEndian 4 tag.toNat); writeAll fs
/-- Writes the encodings of some values. -/
def writeAll : List Value → Writer Unit
  | [] => return
  | v :: vs => do write v; writeAll vs
/-- Writes the encodings of some entries. -/
def writeEntries : List (Value × Value) → Writer Unit
  | [] => return
  | e :: es => do write e.1; write e.2; writeEntries es
end

end CallBoundary.Value
