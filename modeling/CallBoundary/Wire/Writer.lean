import CallBoundary.Wire.Error
import CallBoundary.Wire.Scalar

/-!
# Writing into a fixed region

A region of memory is overwritten from its start.  An item that does not fit leaves the region
unchanged and ends the writing; what was written before it stays.
-/

namespace CallBoundary

/-- A region of memory: the bytes written so far, last first, and the old bytes after them. -/
structure Region where
  back : Bytes
  room : Bytes
deriving DecidableEq, Repr

namespace Region

/-- A region nothing has been written to. -/
def fresh (bs : Bytes) : Region := ⟨[], bs⟩

/-- The bytes written so far. -/
def written (r : Region) : Bytes := r.back.reverse

/-- All bytes of a region. -/
def contents (r : Region) : Bytes := r.written ++ r.room

/-- How many bytes have been written. -/
abbrev position (r : Region) : Nat := r.back.length

/-- How many bytes can still be written. -/
abbrev available (r : Region) : Nat := r.room.length

/-- Overwrites the next bytes. -/
def push (r : Region) (bs : Bytes) : Region := ⟨bs.reverseAux r.back, r.room.drop bs.length⟩

theorem written_fresh (bs : Bytes) : (fresh bs).written = [] := rfl

theorem length_written (r : Region) : r.written.length = r.position := by simp [written]

theorem written_push (r : Region) (bs : Bytes) : (r.push bs).written = r.written ++ bs := by
  simp [written, push]

end Region

/-- A computation that writes. -/
abbrev Writer := EStateM WireError Region

/-- The largest length or count that four bytes hold. -/
def maxLength : Nat := 0x7fffffff

namespace Writer

/-- These bytes.  Only as much room as they take is looked at; `put_apply` says it in terms of all
that is there. -/
def put (bs : Bytes) : Writer Unit := fun r =>
  if (r.room.take bs.length).length = bs.length then .ok () (r.push bs)
  else .error (.overflow bs.length r.available) r

theorem put_apply (bs : Bytes) (r : Region) : put bs r =
    if bs.length ≤ r.available then .ok () (r.push bs)
    else .error (.overflow bs.length r.available) r := by
  have h : min bs.length r.available = bs.length ↔ bs.length ≤ r.available := by omega
  simp only [put, List.length_take, h]

/-- A scalar. -/
def scalar (s : Scalar) : Writer Unit := put s.encode

/-- A length or count. -/
def length (n : Nat) : Writer Unit :=
  if n ≤ maxLength then put (bigEndian 4 n) else throw (.tooLarge n)

/-- The region after a run of a writer, and how the run ended. -/
def runOn (w : Writer Unit) (r : Region) : Except WireError Unit × Region :=
  match w r with
  | .ok _ r => (.ok (), r)
  | .error e r => (.error e, r)

end Writer

end CallBoundary
