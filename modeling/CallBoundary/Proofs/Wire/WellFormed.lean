import CallBoundary.Wire.Encode

/-!
# Values that can be written

A length or count takes four bytes, so only values whose lengths are at most `maxLength` have an
encoding: `Value.fits`.  A map has each key once: `Value.keyed`.

The entries of a map have no order of their own.  `Alike v w` says that `w` is `v` with the entries
of its maps, at any depth, in another order; for maps that have each key once this is equality of
finite maps.  Alike values are of the same types, fit alike and take the same number of bytes:
`Alike.matched`.
-/

namespace CallBoundary.Value

/-! ### Lengths -/

mutual
/-- Whether every length and count in a value fits its four bytes. -/
def fits : Value → Bool
  | text s => (encodeText s).length ≤ maxLength
  | bytes bs => bs.length ≤ maxLength
  | present v => fits v
  | sequence vs => vs.length ≤ maxLength && allFit vs
  | map es => es.length ≤ maxLength && entriesFit es
  | record fs => allFit fs
  | variant _ fs => allFit fs
  | _ => true
/-- Whether this holds of some values. -/
def allFit : List Value → Bool
  | [] => true
  | v :: vs => fits v && allFit vs
/-- Whether this holds of the keys and values of some entries. -/
def entriesFit : List (Value × Value) → Bool
  | [] => true
  | e :: es => fits e.1 && fits e.2 && entriesFit es
end

/-! ### Keys -/

/-- The keys of some entries. -/
def keys (es : List (Value × Value)) : List Value := es.map (·.1)

mutual
/-- Whether every map in a value has each key once. -/
def keyed : Value → Bool
  | present v => keyed v
  | sequence vs => allKeyed vs
  | map es => (keys es).Nodup && entriesKeyed es
  | record fs => allKeyed fs
  | variant _ fs => allKeyed fs
  | _ => true
/-- Whether this holds of some values. -/
def allKeyed : List Value → Bool
  | [] => true
  | v :: vs => keyed v && allKeyed vs
/-- Whether this holds of the keys and values of some entries. -/
def entriesKeyed : List (Value × Value) → Bool
  | [] => true
  | e :: es => keyed e.1 && keyed e.2 && entriesKeyed es
end

/-! ### The order of entries -/

mutual
/-- One value with the entries of its maps in two orders. -/
inductive Alike : Value → Value → Prop
  | same (v : Value) : Alike v v
  | present : Alike v w → Alike (present v) (present w)
  | sequence : AllAlike vs ws → Alike (sequence vs) (sequence ws)
  | map : EntriesAlike es fs → Alike (map es) (map fs)
  | record : AllAlike vs ws → Alike (record vs) (record ws)
  | variant (tag : BitVec 32) : AllAlike vs ws → Alike (variant tag vs) (variant tag ws)
/-- The same of each of some values. -/
inductive AllAlike : List Value → List Value → Prop
  | nil : AllAlike [] []
  | cons : Alike v w → AllAlike vs ws → AllAlike (v :: vs) (w :: ws)
/-- The same of the entries of one map.  Keys hold no maps. -/
inductive EntriesAlike : List (Value × Value) → List (Value × Value) → Prop
  | nil : EntriesAlike [] []
  | cons (k : Value) : Alike v w → EntriesAlike es fs → EntriesAlike ((k, v) :: es) ((k, w) :: fs)
  | swap (a b : Value × Value) (es : List (Value × Value)) :
    EntriesAlike (a :: b :: es) (b :: a :: es)
  | trans : EntriesAlike es fs → EntriesAlike fs gs → EntriesAlike es gs
end

/-- Two values that are written alike: equally long, and both or neither of a type, in bounds and
with each key once. -/
structure Matched (v w : Value) : Prop where
  length : v.encodedLength = w.encodedLength
  fits : v.fits = w.fits
  keyed : v.keyed = w.keyed
  type : ∀ S t, v.hasType S t = w.hasType S t

/-- The same of some values together. -/
structure AllMatched (vs ws : List Value) : Prop where
  count : vs.length = ws.length
  length : allLength vs = allLength ws
  fits : allFit vs = allFit ws
  keyed : allKeyed vs = allKeyed ws
  type : ∀ S t, allHaveType S t vs = allHaveType S t ws
  fields : ∀ S fs, fieldsHaveType S fs vs = fieldsHaveType S fs ws

/-- The same of some entries together. -/
structure EntriesMatched (es fs : List (Value × Value)) : Prop where
  keys : (keys es).Perm (keys fs)
  length : entriesLength es = entriesLength fs
  fits : entriesFit es = entriesFit fs
  keyed : entriesKeyed es = entriesKeyed fs
  type : ∀ S k v, entriesHaveType S k v es = entriesHaveType S k v fs

theorem EntriesMatched.count {es fs : List (Value × Value)} (h : EntriesMatched es fs) :
    es.length = fs.length := by
  simpa [Value.keys] using h.keys.length_eq

mutual
theorem Alike.matched {v w : Value} : Alike v w → Matched v w
  | .same v => ⟨rfl, rfl, rfl, fun _ _ => rfl⟩
  | .present h => by
    have m := h.matched
    constructor
    · simp only [encodedLength, m.length]
    · simp only [fits, m.fits]
    · simp only [keyed, m.keyed]
    · intro S t
      cases t <;> simp only [hasType, m.type]
  | .sequence h => by
    have m := h.matched
    constructor
    · simp only [encodedLength, m.length]
    · simp only [fits, m.count, m.fits]
    · simp only [keyed, m.keyed]
    · intro S t
      cases t <;> simp only [hasType, m.type]
  | .map h => by
    have m := h.matched
    constructor
    · simp only [encodedLength, m.length]
    · simp only [fits, m.count, m.fits]
    · simp only [keyed, m.keys.nodup_iff, m.keyed]
    · intro S t
      cases t <;> simp only [hasType, m.type]
  | .record h => by
    have m := h.matched
    constructor
    · simp only [encodedLength, m.length]
    · simp only [fits, m.fits]
    · simp only [keyed, m.keyed]
    · intro S t
      cases t <;> simp only [hasType, m.fields]
  | .variant tag h => by
    have m := h.matched
    constructor
    · simp only [encodedLength, m.length]
    · simp only [fits, m.fits]
    · simp only [keyed, m.keyed]
    · intro S t
      cases t <;> simp only [hasType, m.fields]
theorem AllAlike.matched {vs ws : List Value} : AllAlike vs ws → AllMatched vs ws
  | .nil => ⟨rfl, rfl, rfl, rfl, fun _ _ => rfl, fun _ _ => rfl⟩
  | .cons h hs => by
    have m := h.matched
    have ms := hs.matched
    constructor
    · simp only [List.length_cons, ms.count]
    · simp only [allLength, m.length, ms.length]
    · simp only [allFit, m.fits, ms.fits]
    · simp only [allKeyed, m.keyed, ms.keyed]
    · intro S t
      simp only [allHaveType, m.type, ms.type]
    · intro S fs
      cases fs <;> simp only [fieldsHaveType, m.type, ms.fields]
theorem EntriesAlike.matched {es fs : List (Value × Value)} : EntriesAlike es fs →
    EntriesMatched es fs
  | .nil => ⟨.refl _, rfl, rfl, rfl, fun _ _ _ => rfl⟩
  | .cons k h hs => by
    have m := h.matched
    have ms := hs.matched
    constructor
    · exact ms.keys.cons k
    · simp only [entriesLength, m.length, ms.length]
    · simp only [entriesFit, m.fits, ms.fits]
    · simp only [entriesKeyed, m.keyed, ms.keyed]
    · intro S k v
      simp only [entriesHaveType, m.type, ms.type]
  | .swap a b es => by
    constructor
    · exact .swap ..
    · simp only [entriesLength]
      omega
    · simp only [entriesFit, Bool.and_left_comm]
    · simp only [entriesKeyed, Bool.and_left_comm]
    · intro S k v
      simp only [entriesHaveType, Bool.and_left_comm]
  | .trans h₁ h₂ => by
    have m₁ := h₁.matched
    have m₂ := h₂.matched
    constructor
    · exact m₁.keys.trans m₂.keys
    · exact m₁.length.trans m₂.length
    · exact m₁.fits.trans m₂.fits
    · exact m₁.keyed.trans m₂.keyed
    · intro S k v
      exact (m₁.type S k v).trans (m₂.type S k v)
end

end CallBoundary.Value
