import CallBoundary.Text.Utf8
import CallBoundary.Wire.Schema

/-!
# Values

A value carries all that its encoding needs.  A map is the list of its entries in the order in
which they are written; `insert` puts an entry in the place of an earlier one with the same key, so
that of several entries with one key the last is kept.
-/

namespace CallBoundary

/-- A value of some type of the wire. -/
inductive Value where
  | unit
  | bool (b : Bool)
  | scalar (s : Scalar)
  | text (s : String)
  | bytes (bs : Bytes)
  | absent
  | present (v : Value)
  | sequence (vs : List Value)
  | map (es : List (Value × Value))
  | record (fs : List Value)
  | variant (tag : BitVec 32) (fs : List Value)
deriving Inhabited, Repr

namespace Value

/-! ### Equality -/

mutual
/-- Whether two values are the same. -/
def same : Value → Value → Bool
  | unit, unit => true
  | bool a, bool b => a == b
  | scalar a, scalar b => a == b
  | text a, text b => a == b
  | bytes a, bytes b => a == b
  | absent, absent => true
  | present a, present b => same a b
  | sequence a, sequence b => sameAll a b
  | map a, map b => sameEntries a b
  | record a, record b => sameAll a b
  | variant i a, variant j b => i == j && sameAll a b
  | _, _ => false
/-- Whether two lists of values are the same. -/
def sameAll : List Value → List Value → Bool
  | [], [] => true
  | a :: as, b :: bs => same a b && sameAll as bs
  | _, _ => false
/-- Whether two lists of entries are the same. -/
def sameEntries : List (Value × Value) → List (Value × Value) → Bool
  | [], [] => true
  | a :: as, b :: bs => same a.1 b.1 && same a.2 b.2 && sameEntries as bs
  | _, _ => false
end

mutual
theorem same_iff : ∀ a b, same a b = true ↔ a = b
  | a, b => by cases a <;> cases b <;> simp [same, same_iff, sameAll_iff, sameEntries_iff]
theorem sameAll_iff : ∀ a b, sameAll a b = true ↔ a = b
  | [], [] => by simp [sameAll]
  | [], _ :: _ => by simp [sameAll]
  | _ :: _, [] => by simp [sameAll]
  | a :: as, b :: bs => by simp [sameAll, same_iff a b, sameAll_iff as bs]
theorem sameEntries_iff : ∀ a b, sameEntries a b = true ↔ a = b
  | [], [] => by simp [sameEntries]
  | [], _ :: _ => by simp [sameEntries]
  | _ :: _, [] => by simp [sameEntries]
  | a :: as, b :: bs => by
    simp [sameEntries, same_iff a.1 b.1, same_iff a.2 b.2, sameEntries_iff as bs, Prod.ext_iff]
end

instance : DecidableEq Value := fun a b => decidable_of_iff _ (same_iff a b)

/-! ### Maps -/

/-- The entries with `key` leading to `value`: in the place of the key if it is there, else last. -/
def insert (key value : Value) : List (Value × Value) → List (Value × Value)
  | [] => [(key, value)]
  | e :: es => if e.1 = key then (key, value) :: es else e :: insert key value es

/-- What the entries hold for a key. -/
def lookup (key : Value) : List (Value × Value) → Option Value
  | [] => none
  | e :: es => if e.1 = key then some e.2 else lookup key es

/-- The map of some entries, the last of each key. -/
def ofEntries (es : List (Value × Value)) : Value :=
  map (es.foldl (fun m e => insert e.1 e.2 m) [])

theorem lookup_insert (k v k' : Value) (es : List (Value × Value)) :
    lookup k' (insert k v es) = if k = k' then some v else lookup k' es := by
  induction es with
  | nil => simp [insert, lookup]
  | cons e es ih =>
    by_cases h : e.1 = k <;> by_cases h' : e.1 = k' <;> simp_all [insert, lookup]
    all_goals grind

theorem insert_insert (k v : Value) (es : List (Value × Value)) :
    insert k v (insert k v es) = insert k v es := by
  induction es with
  | nil => simp [insert]
  | cons e es ih => by_cases h : e.1 = k <;> simp [insert, h, ih]

/-! ### Parts -/

/-- The text of a text value. -/
def asText : Value → String
  | text s => s
  | _ => ""

/-- The items of a sequence. -/
def items : Value → List Value
  | sequence vs => vs
  | _ => []

/-- The entries of a map. -/
def entries : Value → List (Value × Value)
  | map es => es
  | _ => []

/-- The parts of a record or variant of a named type, each with its field, and the variant's
name. -/
def parts (S : Schema) (name : String) : Value → Option (Option String × List (Field × Value))
  | record vs =>
    match S.shape name with
    | .record fs => some (none, fs.zip vs)
    | .choice _ => none
  | variant tag vs =>
    match S.shape name with
    | .record _ => none
    | .choice cases => (cases.find? (·.tag = tag)).map fun c => (some c.name, c.fields.zip vs)
  | _ => none

/-! ### Freedom of order -/

mutual
/-- Whether no map in a value has two entries, so that there is one order to write it in. -/
def ordered : Value → Bool
  | present v => ordered v
  | sequence vs => allOrdered vs
  | map es => es.length ≤ 1 && entriesOrdered es
  | record vs => allOrdered vs
  | variant _ vs => allOrdered vs
  | _ => true
/-- Whether this holds of some values. -/
def allOrdered : List Value → Bool
  | [] => true
  | v :: vs => ordered v && allOrdered vs
/-- Whether this holds of the keys and values of some entries. -/
def entriesOrdered : List (Value × Value) → Bool
  | [] => true
  | e :: es => ordered e.1 && ordered e.2 && entriesOrdered es
end

/-! ### Typing -/

mutual
/-- Whether a value is of a type. -/
def hasType (S : Schema) : WireType → Value → Bool
  | .unit, unit => true
  | .bool, bool _ => true
  | .scalar t, scalar s => s.type == t
  | .text, text _ => true
  | .bytes, bytes _ => true
  | .optional _, absent => true
  | .optional t, present v => hasType S t v
  | .sequence t, sequence vs => allHaveType S t vs
  | .map k v, map es => entriesHaveType S k v es
  | .named n, record vs =>
    match S.shape n with
    | .record fs => fieldsHaveType S fs vs
    | .choice _ => false
  | .named n, variant tag vs =>
    match S.shape n with
    | .record _ => false
    | .choice cases => match cases.find? (·.tag = tag) with
      | some c => fieldsHaveType S c.fields vs
      | none => false
  | _, _ => false
/-- Whether all values are of a type. -/
def allHaveType (S : Schema) (t : WireType) : List Value → Bool
  | [] => true
  | v :: vs => hasType S t v && allHaveType S t vs
/-- Whether all keys and all values are of their type. -/
def entriesHaveType (S : Schema) (k v : WireType) : List (Value × Value) → Bool
  | [] => true
  | e :: es => hasType S k e.1 && hasType S v e.2 && entriesHaveType S k v es
/-- Whether the values are of the types of the fields, one each. -/
def fieldsHaveType (S : Schema) : List Field → List Value → Bool
  | [], [] => true
  | f :: fs, v :: vs => hasType S f.type v && fieldsHaveType S fs vs
  | _, _ => false
end

end Value

end CallBoundary
