import CallBoundary.Wire.Reader
import CallBoundary.Wire.Value

/-!
# Decoding

`Schema.decode` reads a value of a type.  It ends on every byte run: between two openings of the
same record it takes at least a byte, and a count is worked off one element at a time.  A `Reading`
carries the fact that this rests on, that reading only moves on.

What is read is put together when it is asked for, and elements that take no bytes are all alike.
So a count that is refused later on costs nothing, however large it is.

`Schema.read` is the same as a `Reader`, with one equation per kind of type.
-/

namespace CallBoundary

open Reader (reached Takes)

/-- The outcome of reading from a place: at a place further on. -/
def Reading (c : Cursor) (α : Type) :=
  { r : EStateM.Result WireError Cursor α // c.Onward (reached r) }

namespace Reading

/-- Reading nothing. -/
def done (c : Cursor) (a : α) : Reading c α := ⟨.ok a c, .refl c⟩

/-- Refusing what was read. -/
def fail (c : Cursor) (e : WireError) : Reading c α := ⟨.error e c, .refl c⟩

/-- The same outcome, read from an earlier place. -/
def since {c c' : Cursor} (r : Reading c' α) (h : c.Onward c') : Reading c α :=
  ⟨r.1, h.trans r.2⟩

/-- A reading and what follows its success. -/
def andThen {c : Cursor} (r : Reading c α)
    (f : α → (c' : Cursor) → c.Onward c' → Reading c' β) : Reading c β :=
  match r with
  | ⟨.ok a c', h⟩ => (f a c' h).since h
  | ⟨.error e c', h⟩ => ⟨.error e c', h⟩

/-- A reader that takes `k` bytes and what follows its success. -/
def after {k : Nat} {r : Reader α} (hr : Takes k r) (c : Cursor)
    (f : α → (c' : Cursor) → c'.remaining + k ≤ c.remaining → Reading c' β) : Reading c β :=
  match h : r c with
  | .ok a c' => (f a c' (hr.ok c a c' h)).since (by have := hr.onward c; rwa [h] at this)
  | .error e c' => ⟨.error e c', by have := hr.onward c; rwa [h] at this⟩

/-- An outcome with its value changed. -/
def map {c : Cursor} (f : α → β) (r : Reading c α) : Reading c β :=
  r.andThen fun a c' _ => done c' (f a)

/-- An outcome with its value put together. -/
def get {c : Cursor} (r : Reading c (Thunk α)) : Reading c α := r.map Thunk.get

end Reading

namespace Schema

theorem lex_lt {a a' b b' c c' : Nat} (ha : a' ≤ a) (h : b' < b ∨ b' ≤ b ∧ c' < c) :
    Prod.Lex (· < ·) (Prod.Lex (· < ·) (· < ·)) (a', b', c') (a, b, c) := by
  rcases Nat.lt_or_eq_of_le ha with ha | rfl
  · exact .left _ _ ha
  · refine .right _ ?_
    rcases h with h | ⟨hb, h⟩
    · exact .left _ _ h
    · rcases Nat.lt_or_eq_of_le hb with hb | rfl
      · exact .left _ _ hb
      · exact .right _ h

open Reader in
mutual
/-- Reads a value of a type. -/
def decode (S : Schema) : (t : WireType) → (c : Cursor) → Reading c (Thunk Value)
  | .unit, c => .done c (.pure .unit)
  | .bool, c => .after takes_bool c fun b c' _ => .done c' (.pure (.bool b))
  | .scalar t, c => .after (takes_scalar t) c fun s c' _ => .done c' (.pure (.scalar s))
  | .text, c => .after takes_text c fun s c' _ => .done c' (.pure (.text s))
  | .bytes, c => .after takes_bytes c fun bs c' _ => .done c' (.pure (.bytes bs))
  | .optional t, c => .after takes_presence c fun there c' _ =>
      if there then (decode S t c').map (·.map .present) else .done c' (.pure .absent)
  | .sequence t, c => .after takes_length c fun n c' _ =>
      (decodeMany S t n c').map (·.map .sequence)
  | .map k v, c => .after takes_length c fun n c' _ =>
      (decodeEntries S k v n [] c').map (.pure <| .map ·)
  | .named name, c =>
    match _shape : S.shape name with
    | .record fields => (decodeFields S fields c).map (·.map .record)
    | .choice variants => .after takes_tag c fun tag c' _ =>
      match variants.find? (·.tag = tag) with
      | some v => (decodeFields S v.fields c').map (·.map (.variant v.tag))
      | none => .fail c' (.unknownTag name tag.toInt)
termination_by t c => (c.remaining, S.level t, 0)
decreasing_by
  · exact .left _ _ (by omega)
  · exact .left _ _ (by omega)
  · exact .left _ _ (by omega)
  · exact lex_lt (Nat.le_refl _) (.inl (height_lt_level _shape))
  · exact .left _ _ (by omega)
/-- Reads as many values of a type. -/
def decodeMany (S : Schema) (t : WireType) :
    (n : Nat) → (c : Cursor) → Reading c (Thunk (List Value))
  | 0, c => .done c (.pure [])
  | n + 1, c => (decode S t c).andThen fun v c' _ =>
      if c'.position = c.position then .done c' ⟨fun _ => List.replicate (n + 1) v.get⟩
      else (decodeMany S t n c').map fun vs => ⟨fun _ => v.get :: vs.get⟩
termination_by n c => (c.remaining, S.level t, n + 1)
decreasing_by
  · exact lex_lt (Nat.le_refl _) (.inr ⟨Nat.le_refl _, by omega⟩)
  · exact lex_lt (Cursor.Onward.le ‹_›) (.inr ⟨Nat.le_refl _, by omega⟩)
/-- Reads as many entries and puts them into a map one after the other. -/
def decodeEntries (S : Schema) (k v : WireType) : (n : Nat) → (es : List (Value × Value)) →
    (c : Cursor) → Reading c (List (Value × Value))
  | 0, es, c => .done c es
  | n + 1, es, c =>
    (decode S k c).andThen fun key c₁ _ =>
    (decode S v c₁).andThen fun value c₂ _ =>
    let es := Value.insert key.get value.get es
    if c₂.position = c.position then .done c₂ es else decodeEntries S k v n es c₂
termination_by n _ c => (c.remaining, max (S.level k) (S.level v), n + 1)
decreasing_by
  · exact lex_lt (Nat.le_refl _) (.inr ⟨Nat.le_max_left .., by omega⟩)
  · exact lex_lt (Cursor.Onward.le ‹_›) (.inr ⟨Nat.le_max_right .., by omega⟩)
  · exact lex_lt (Nat.le_trans (Cursor.Onward.le ‹_›) (Cursor.Onward.le ‹_›))
      (.inr ⟨Nat.le_refl _, by omega⟩)
/-- Reads the fields of a record or variant in order. -/
def decodeFields (S : Schema) :
    (fields : List Field) → (c : Cursor) → Reading c (Thunk (List Value))
  | [], c => .done c (.pure [])
  | f :: fs, c => (decode S f.type c).andThen fun v c' _ =>
      (decodeFields S fs c').map fun vs => ⟨fun _ => v.get :: vs.get⟩
termination_by fields c => (c.remaining, S.height fields, fields.length + 1)
decreasing_by
  · exact lex_lt (Nat.le_refl _) (.inr ⟨level_le_height, by simp⟩)
  · exact lex_lt (Cursor.Onward.le ‹_›) (.inr ⟨height_le_cons, by simp⟩)
end

-- the equations of the four are made here, once for all that follows
attribute [local simp] decode decodeMany decodeEntries decodeFields

/-- Reads a value of a type, and leaves it to be put together. -/
def readLater (S : Schema) (t : WireType) : Reader (Thunk Value) := fun c => (S.decode t c).1

/-- Reads a value of a type. -/
def read (S : Schema) (t : WireType) : Reader Value := fun c => (S.decode t c).get.1

/-- Reads as many values of a type. -/
def readMany (S : Schema) (t : WireType) (n : Nat) : Reader (List Value) :=
  fun c => (S.decodeMany t n c).get.1

/-- Reads as many entries and puts them into a map one after the other. -/
def readEntries (S : Schema) (k v : WireType) (n : Nat) (es : List (Value × Value)) :
    Reader (List (Value × Value)) := fun c => (S.decodeEntries k v n es c).1

/-- Reads the fields of a record or variant in order. -/
def readFields (S : Schema) (fields : List Field) : Reader (List Value) :=
  fun c => (S.decodeFields fields c).get.1

end Schema

/-! ### Readings as readers -/

namespace Reading

theorem get_since {c c' : Cursor} (r : Reading c' (Thunk α)) (h : c.Onward c') :
    (r.since h).get.1 = r.get.1 := by
  match r with
  | ⟨.ok _ _, _⟩ => rfl
  | ⟨.error _ _, _⟩ => rfl

theorem andThen_eq {c : Cursor} {r : Reading c (Thunk α)} {m : Reader α} (hr : r.get.1 = m c)
    {f : Thunk α → (c' : Cursor) → c.Onward c' → Reading c' β} {g : α → Reader β}
    (hf : ∀ a c' h, (f a c' h).1 = g a.get c') : (r.andThen f).1 = (m >>= g) c := by
  rw [Reader.bind_apply, ← hr]
  match r with
  | ⟨.ok a c', h⟩ => exact hf a c' h
  | ⟨.error e c', h⟩ => rfl

theorem get_andThen {c : Cursor} {r : Reading c (Thunk α)} {m : Reader α} (hr : r.get.1 = m c)
    {f : Thunk α → (c' : Cursor) → c.Onward c' → Reading c' (Thunk β)} {g : α → Reader β}
    (hf : ∀ a c' h, (f a c' h).get.1 = g a.get c') : (r.andThen f).get.1 = (m >>= g) c := by
  rw [Reader.bind_apply, ← hr]
  match r with
  | ⟨.ok a c', h⟩ => exact (get_since (f a c' h) h).trans (hf a c' h)
  | ⟨.error e c', h⟩ => rfl

theorem get_map {c : Cursor} {r : Reading c (Thunk α)} {m : Reader α} (hr : r.get.1 = m c)
    {f : Thunk α → Thunk β} {g : α → β} (hf : ∀ a, (f a).get = g a.get) :
    (r.map f).get.1 = (m >>= fun a => pure (g a)) c :=
  get_andThen hr fun a c' _ => by
    show EStateM.Result.ok (f a).get c' = _
    rw [hf]; rfl

theorem get_after {k : Nat} {r : Reader α} (hr : Takes k r) (c : Cursor)
    {f : α → (c' : Cursor) → c'.remaining + k ≤ c.remaining → Reading c' (Thunk β)}
    {g : α → Reader β} (hf : ∀ a c' h, (f a c' h).get.1 = g a c') :
    (after hr c f).get.1 = (r >>= g) c := by
  rw [Reader.bind_apply]
  unfold after
  split
  · rename_i a c' h
    simp only [h]
    exact (get_since _ _).trans (hf a c' (hr.ok c a c' h))
  · rename_i e c' h
    simp only [h]
    rfl

end Reading

namespace Schema

open Reading

variable (S : Schema)

theorem read_eq (t : WireType) : S.read t = do return (← S.readLater t).get := by
  funext c
  rw [Reader.bind_apply, read, readLater]
  match S.decode t c with
  | ⟨.ok a c', h⟩ => rfl
  | ⟨.error e c', h⟩ => rfl

theorem read_unit : S.read .unit = return .unit := by
  funext c; rw [read, decode]; rfl

theorem read_bool : S.read .bool = return .bool (← Reader.bool) := by
  funext c; rw [read, decode]; exact get_after _ _ fun _ _ _ => rfl

theorem read_scalar (t : ScalarType) : S.read (.scalar t) = return .scalar (← Reader.scalar t) := by
  funext c; rw [read, decode]; exact get_after _ _ fun _ _ _ => rfl

theorem read_text : S.read .text = return .text (← Reader.text) := by
  funext c; rw [read, decode]; exact get_after _ _ fun _ _ _ => rfl

theorem read_bytes : S.read .bytes = return .bytes (← Reader.bytes) := by
  funext c; rw [read, decode]; exact get_after _ _ fun _ _ _ => rfl

theorem read_optional (t : WireType) : S.read (.optional t) = do
    if ← Reader.presence then return .present (← S.read t) else return .absent := by
  funext c; rw [read, decode]
  refine get_after _ _ fun there c' _ => ?_
  cases there
  · rfl
  · exact get_map rfl fun _ => rfl

theorem read_sequence (t : WireType) : S.read (.sequence t) = do
    return .sequence (← S.readMany t (← Reader.length)) := by
  funext c; rw [read, decode]
  exact get_after _ _ fun _ _ _ => get_map rfl fun _ => rfl

theorem read_map (k v : WireType) : S.read (.map k v) = do
    return .map (← S.readEntries k v (← Reader.length) []) := by
  funext c; rw [read, decode]
  refine get_after _ _ fun n c' _ => ?_
  rw [Reader.bind_apply, readEntries]
  match S.decodeEntries k v n [] c' with
  | ⟨.ok a c', h⟩ => rfl
  | ⟨.error e c', h⟩ => rfl

theorem read_record {name : String} {fields : List Field} (h : S.shape name = .record fields) :
    S.read (.named name) = return .record (← S.readFields fields) := by
  funext c; rw [read, decode]
  split
  · rename_i h'; rw [h] at h'; cases h'
    exact get_map rfl fun _ => rfl
  · rename_i h'; rw [h] at h'; cases h'

theorem read_choice {name : String} {variants : List Variant}
    (h : S.shape name = .choice variants) : S.read (.named name) = (do
      let tag ← Reader.tag
      match variants.find? (·.tag = tag) with
      | some v => return .variant v.tag (← S.readFields v.fields)
      | none => throw (.unknownTag name tag.toInt)) := by
  funext c; rw [read, decode]
  split
  · rename_i h'; rw [h] at h'; cases h'
  · rename_i h'; rw [h] at h'; cases h'
    refine get_after _ _ fun tag c' _ => ?_
    cases variants.find? (·.tag = tag) with
    | some v => exact get_map rfl fun _ => rfl
    | none => rfl

theorem readMany_zero (t : WireType) : S.readMany t 0 = return [] := by
  funext c; rw [readMany, decodeMany]; rfl

/-- A value that takes no bytes can be read as often as one likes. -/
theorem readMany_of_stays {t : WireType} {c : Cursor} {v : Value} (h : S.read t c = .ok v c) :
    ∀ n, S.readMany t n c = .ok (List.replicate n v) c
  | 0 => by rw [readMany_zero]; rfl
  | n + 1 => by
    rw [read] at h
    rw [readMany, decodeMany]
    match hd : S.decode t c with
    | ⟨.error e c', _⟩ => rw [hd] at h; cases h
    | ⟨.ok a c', ho⟩ =>
      rw [hd] at h
      injection h with hv hc
      subst hc hv
      simp only [andThen, if_true]
      rfl

theorem readMany_succ (t : WireType) (n : Nat) : S.readMany t (n + 1) = do
    let v ← S.read t
    return v :: (← S.readMany t n) := by
  funext c
  rw [readMany, decodeMany, Reader.bind_apply]
  match hd : S.decode t c with
  | ⟨.error e c', _⟩ => rw [read, hd]; rfl
  | ⟨.ok v c', ho⟩ =>
    have hr : S.read t c = .ok v.get c' := by rw [read, hd]; rfl
    simp only [hr, andThen]
    refine (get_since _ _).trans ?_
    split
    · next hp =>
      have ho' : c.Onward c' := ho
      obtain rfl := ho'.eq hp
      rw [Reader.bind_apply, S.readMany_of_stays hr n]
      rfl
    · exact get_map rfl fun _ => rfl

theorem readEntries_zero (k v : WireType) (es : List (Value × Value)) :
    S.readEntries k v 0 es = return es := by
  funext c; rw [readEntries, decodeEntries]; rfl

theorem onward_of_read {t : WireType} {c c' : Cursor} {v : Value} (h : S.read t c = .ok v c') :
    c.Onward c' := by
  have ho := (S.decode t c).get.2
  rw [read] at h
  rwa [h] at ho

theorem readEntries_succ_apply (k v : WireType) (n : Nat) (es : List (Value × Value)) (c : Cursor) :
    S.readEntries k v (n + 1) es c = match S.read k c with
      | .error e c' => .error e c'
      | .ok key c₁ => match S.read v c₁ with
        | .error e c' => .error e c'
        | .ok value c₂ =>
          if c₂.position = c.position then .ok (Value.insert key value es) c₂
          else S.readEntries k v n (Value.insert key value es) c₂ := by
  let last (key : Value) : Reader (List (Value × Value)) := S.read v >>= fun value c₂ =>
    if c₂.position = c.position then .ok (Value.insert key value es) c₂
    else S.readEntries k v n (Value.insert key value es) c₂
  rw [readEntries, decodeEntries]
  have hk : (S.decode k c).get.1 = S.read k c := rfl
  refine (andThen_eq (g := last) hk fun key c₁ _ => andThen_eq rfl fun _ c₂ _ => ?_).trans ?_
  · dsimp only
    split <;> rfl
  · rw [Reader.bind_apply]
    cases S.read k c with
    | error => rfl
    | ok key c₁ =>
      refine (Reader.bind_apply (S.read v) _ c₁).trans ?_
      dsimp only
      cases S.read v c₁ <;> rfl

/-- An entry that takes no bytes can be read as often as one likes. -/
theorem readEntries_of_stays {k v : WireType} {c : Cursor} {key value : Value}
    (hk : S.read k c = .ok key c) (hv : S.read v c = .ok value c) {es : List (Value × Value)}
    (hs : Value.insert key value es = es) : ∀ n, S.readEntries k v n es c = .ok es c
  | 0 => by rw [readEntries, decodeEntries]; rfl
  | n + 1 => by simp [S.readEntries_succ_apply, hk, hv, hs]

theorem readEntries_succ (k v : WireType) (n : Nat) (es : List (Value × Value)) :
    S.readEntries k v (n + 1) es = (do
      let key ← S.read k
      let value ← S.read v
      S.readEntries k v n (Value.insert key value es)) := by
  funext c
  rw [readEntries_succ_apply, Reader.bind_apply]
  cases hk : S.read k c with
  | error => rfl
  | ok key c₁ =>
    simp only [Reader.bind_apply]
    cases hv : S.read v c₁ with
    | error => rfl
    | ok value c₂ =>
      dsimp only
      split
      · next hp =>
        obtain ⟨i, -, rfl⟩ := S.onward_of_read hk
        obtain ⟨j, -, rfl⟩ := S.onward_of_read hv
        obtain ⟨rfl, rfl⟩ : i = 0 ∧ j = 0 := by simp only [Cursor.skip] at hp; omega
        exact (S.readEntries_of_stays hk hv (Value.insert_insert ..) n).symm
      · rfl

theorem readFields_nil : S.readFields [] = return [] := by
  funext c; rw [readFields, decodeFields]; rfl

theorem readFields_cons (f : Field) (fs : List Field) : S.readFields (f :: fs) = do
    let v ← S.read f.type
    return v :: (← S.readFields fs) := by
  funext c; rw [readFields, decodeFields]
  exact get_andThen rfl fun _ _ _ => get_map rfl fun _ => rfl

end Schema

end CallBoundary
