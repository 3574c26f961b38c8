import CallBoundary.Wire.Error

/-!
# Buffers

A buffer is handed across the boundary by value: a capacity, a length and a pointer to data that
may be null.  Whoever holds a buffer owns its data, and gives it back to the allocator once.

A pointer that is not null points to a `Block`, whose address tells it from all others; its bytes
are the buffer's whole capacity, and the buffer's length says how many of them count.  Room that
nobody has written to is not spelled out, so that a large buffer costs no more than a small one;
`Block.first_eq` and `Block.bytes_overwrite` say what the operations mean for the bytes.
-/

namespace CallBoundary

/-- An allocation: where it lies, what was written to it, and how many zeros follow. -/
structure Block where
  address : Nat
  written : Bytes
  blank : Nat := 0
deriving DecidableEq, Repr

namespace Block

/-- All bytes of a block. -/
def bytes (b : Block) : Bytes := b.written ++ List.replicate b.blank 0

/-- How many bytes a block has. -/
def size (b : Block) : Nat := b.written.length + b.blank

/-- The first bytes of a block. -/
def first (b : Block) (n : Nat) : Bytes :=
  b.written.take n ++ List.replicate (min (n - b.written.length) b.blank) 0

/-- The block with its first bytes overwritten. -/
def overwrite (b : Block) (bs : Bytes) : Block :=
  { b with
    written := bs ++ b.written.drop bs.length
    blank := b.blank - (bs.length - b.written.length) }

theorem length_bytes (b : Block) : b.bytes.length = b.size := by
  simp [bytes, size]

theorem first_eq (b : Block) (n : Nat) : b.first n = b.bytes.take n := by
  simp [first, bytes, List.take_append]

theorem bytes_overwrite (b : Block) (bs : Bytes) :
    (b.overwrite bs).bytes = bs ++ b.bytes.drop bs.length := by
  simp [overwrite, bytes, List.drop_append]

end Block

/-- The data of a buffer: none, with the capacity that is claimed all the same, or a block. -/
inductive Storage where
  | null (capacity : Nat)
  | block (b : Block)
deriving DecidableEq, Repr

/-- A byte region that crosses the boundary. -/
structure Buffer where
  storage : Storage
  length : Nat
deriving DecidableEq, Repr

namespace Buffer

/-- The buffer that owns nothing. -/
def unallocated : Buffer := ⟨.null 0, 0⟩

instance : Inhabited Buffer := ⟨unallocated⟩

/-- The buffer of a block whose bytes all count. -/
def ofBlock (b : Block) : Buffer := ⟨.block b, b.size⟩

/-- How many bytes there is room for. -/
def capacity (b : Buffer) : Nat :=
  match b.storage with
  | .null c => c
  | .block blk => blk.size

/-- Whether there is neither data nor a claim to any. -/
def isUnallocated (b : Buffer) : Bool := b.storage == .null 0

/-- The address of the data. -/
def address? (b : Buffer) : Option Nat :=
  match b.storage with
  | .null _ => none
  | .block blk => some blk.address

/-- Whether the layout makes sense: no capacity without data, no length beyond the capacity. -/
def check (b : Buffer) : Except WireError Unit :=
  match b.storage with
  | .null (c + 1) => .error (.missingData (c + 1))
  | _ =>
    if b.length ≤ b.capacity then .ok () else .error (.lengthExceedsCapacity b.length b.capacity)

/-- The bytes that count. -/
def contents (b : Buffer) : Bytes :=
  match b.storage with
  | .null _ => []
  | .block blk => blk.first b.length

/-- Whether all bytes that count are zero. -/
def isZero (b : Buffer) : Bool :=
  match b.storage with
  | .null _ => true
  | .block blk => (blk.written.take b.length).all (· == 0)

theorem isZero_eq (b : Buffer) : b.isZero = b.contents.all (· == 0) := by
  obtain ⟨_ | blk, n⟩ := b <;> simp [isZero, contents, Block.first]

/-- The buffer with its first bytes overwritten and only those counting. -/
def overwrite (b : Buffer) (bs : Bytes) : Buffer :=
  match b.storage with
  | .null c => ⟨.null c, bs.length⟩
  | .block blk => ⟨.block (blk.overwrite bs), bs.length⟩

/-- The buffer with some bytes in place of those from a place on, among those that count. -/
def writeAt (b : Buffer) (place : Nat) (bs : Bytes) : Buffer :=
  { b.overwrite (b.contents.take place ++ bs ++ b.contents.drop (place + bs.length)) with
    length := b.length }

/-- The bytes of a buffer that is given up. -/
def intoBytes (b : Buffer) : Except WireError Bytes := b.check.map fun _ => b.contents

end Buffer

/-- Bytes that their owner lends across the boundary: a length and a pointer that may be null. -/
structure Borrowed where
  length : Int
  data : Option Bytes
deriving DecidableEq, Repr

namespace Borrowed

/-- A loan of these bytes. -/
def ofBytes (bs : Bytes) : Except WireError Borrowed :=
  if bs.length ≤ 0x7fffffff then .ok ⟨bs.length, some bs⟩ else .error (.tooLarge bs.length)

/-- The bytes lent. -/
def contents (b : Borrowed) : Except WireError Bytes :=
  if b.length < 0 then .error (.negativeLength b.length)
  else if b.length = 0 then .ok []
  else match b.data with
    | none => .error (.missingData b.length.toNat)
    | some bs => .ok (bs.take b.length.toNat)

end Borrowed

end CallBoundary
