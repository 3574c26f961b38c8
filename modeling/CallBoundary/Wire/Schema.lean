import CallBoundary.Wire.Scalar

/-!
# Types of the wire

A type is built from scalars, texts and byte runs by optionals, sequences, maps and named types.  A
schema declares the named types: a record is its fields in order, a choice is one of several tagged
variants.  Types may refer to themselves, but a record only through something that takes at least a
byte before it: `Schema.guarded`.
-/

namespace CallBoundary

/-- A type of values. -/
inductive WireType where
  | unit
  | bool
  | scalar (t : ScalarType)
  | text
  | bytes
  | optional (t : WireType)
  | sequence (t : WireType)
  | map (key value : WireType)
  | named (name : String)
deriving DecidableEq, Repr, Inhabited

/-- A named part of a record or variant. -/
structure Field where
  name : String
  type : WireType
deriving DecidableEq, Repr

/-- One case of a choice, told apart by its tag. -/
structure Variant where
  tag : BitVec 32
  name : String
  fields : List Field := []
deriving DecidableEq, Repr

/-- What a named type is made of. -/
inductive Shape where
  | record (fields : List Field)
  | choice (variants : List Variant)
deriving DecidableEq, Repr

/-- How many records a type may open before it takes a byte, from the ranks of the named types. -/
def WireType.level (rank : String → Nat) : WireType → Nat
  | .named n => rank n + 1
  | _ => 0

/-- The declarations of the named types.  The rank of a record lies above the ranks of the types
that its fields name directly, so that no record opens itself without taking a byte. -/
structure Schema where
  shape : String → Shape
  rank : String → Nat
  guarded : ∀ name fields, shape name = .record fields → ∀ f ∈ fields, f.type.level rank ≤ rank name

namespace Schema

/-- How many records a type may open before it takes a byte. -/
abbrev level (S : Schema) (t : WireType) : Nat := t.level S.rank

/-- The highest level among the types of some fields. -/
def height (S : Schema) (fs : List Field) : Nat := fs.foldr (fun f h => max (S.level f.type) h) 0

theorem level_le_height {S : Schema} {f : Field} {fs : List Field} :
    S.level f.type ≤ S.height (f :: fs) := Nat.le_max_left ..

theorem height_le_cons {S : Schema} {f : Field} {fs : List Field} :
    S.height fs ≤ S.height (f :: fs) := Nat.le_max_right ..

theorem height_lt_level {S : Schema} {name : String} {fs : List Field}
    (h : S.shape name = .record fs) : S.height fs < S.level (.named name) := by
  have hg := S.guarded name fs h
  suffices S.height fs ≤ S.rank name from Nat.lt_succ_of_le this
  clear h
  induction fs with
  | nil => exact Nat.zero_le _
  | cons f fs ih =>
    simp only [List.mem_cons, forall_eq_or_imp] at hg
    exact Nat.max_le.2 ⟨hg.1, ih hg.2⟩

end Schema

/-- The name of the choice without variants. -/
def neverName : String := "Infallible"

/-- The type without values.  Its encoding would begin with a tag, and no tag is right. -/
abbrev WireType.never : WireType := .named neverName

/-- The types that cross the boundary by themselves; all others travel in a buffer. -/
def WireType.isScalar : WireType → Bool
  | unit | bool | scalar _ => true
  | _ => false

end CallBoundary
