import CallBoundary.Proofs.Outcome
import CallBoundary.Proofs.Wire.Merging
import CallBoundary.Sample.Types
import CallBoundary.Wire.Decode

/-!
# How deep and how long reading goes

Reading a value of a type begins with its head: a flag, a count or a tag, or nothing at all.  The
head says which parts come next, and each part is read in the same way.  `S.Runs t c v r` says that
reading a `t` from the place `c` runs to its end with the outcome `r`; `v` is the tree of the visits
to places where a part is read, failed ones included.  Its rules go through the parts one after the
other and know no measure.

Every reading runs to its end, and `S.read` is its outcome (`runs_read`, `Runs.unique`).  On the way
in, either a byte has been taken or the level of the type goes down (`head_descends`), so that a type
inside itself is read at a later place, and named types are not nested deeper than there are bytes.
In width a reading can only go wrong over a count, and a count that is too large is found out once
the bytes have been used up (`RunsParts.room`).

Levels come from the ranks of the named types, and there are ranks whenever no record opens itself
directly (`exists_schema_iff`).
-/

namespace CallBoundary

open Reader

/-! ### Heads -/

namespace Reader

/-- An outcome with its value changed. -/
def mapped (f : α → β) : EStateM.Result WireError Cursor α → EStateM.Result WireError Cursor β
  | .ok a c => .ok (f a) c
  | .error e c => .error e c

theorem bind_pure_apply (r : Reader α) (f : α → β) (c : Cursor) :
    (r >>= fun a => pure (f a)) c = mapped f (r c) := by
  rw [bind_apply]
  cases r c <;> rfl

end Reader

/-- The types of the parts that a value is put together from, and how. -/
structure Head where
  parts : List WireType
  build : List Value → Value

/-- Values two by two. -/
def Value.pairs : List Value → List (Value × Value)
  | k :: v :: vs => (k, v) :: pairs vs
  | _ => []

namespace Schema

/-- Reads what comes before the parts of a value. -/
def head (S : Schema) : WireType → Reader Head
  | .unit => return ⟨[], fun _ => .unit⟩
  | .bool => do
    let b ← bool
    return ⟨[], fun _ => .bool b⟩
  | .scalar t => do
    let s ← scalar t
    return ⟨[], fun _ => .scalar s⟩
  | .text => do
    let s ← text
    return ⟨[], fun _ => .text s⟩
  | .bytes => do
    let bs ← bytes
    return ⟨[], fun _ => .bytes bs⟩
  | .optional t => do
    if ← presence then return ⟨[t], fun vs => .present (vs.headD .unit)⟩
    else return ⟨[], fun _ => .absent⟩
  | .sequence t => do
    let n ← length
    return ⟨List.replicate n t, .sequence⟩
  | .map k v => do
    let n ← length
    return ⟨(List.replicate n [k, v]).flatten, fun vs => .ofEntries (Value.pairs vs)⟩
  | .named name =>
    match S.shape name with
    | .record fields => return ⟨fields.map (·.type), .record⟩
    | .choice variants => do
      let tag ← tag
      match variants.find? (·.tag = tag) with
      | some v => return ⟨v.fields.map (·.type), .variant v.tag⟩
      | none => throw (.unknownTag name tag.toInt)

/-- Reads parts one after the other. -/
def readParts (S : Schema) : List WireType → Reader (List Value)
  | [] => return []
  | t :: ts => do
    let v ← S.read t
    return v :: (← S.readParts ts)

variable (S : Schema)

theorem readMany_eq_readParts (t : WireType) (n : Nat) :
    S.readMany t n = S.readParts (List.replicate n t) := by
  induction n with
  | zero => exact S.readMany_zero t
  | succ n ih => rw [readMany_succ, ih, List.replicate_succ, readParts]

theorem readFields_eq_readParts (fields : List Field) :
    S.readFields fields = S.readParts (fields.map (·.type)) := by
  induction fields with
  | nil => exact S.readFields_nil
  | cons f fs ih => rw [readFields_cons, ih, List.map_cons, readParts]

theorem readEntries_eq_readParts (k v : WireType) (n : Nat) (m : List (Value × Value)) :
    S.readEntries k v n m = (do
      let vs ← S.readParts (List.replicate n [k, v]).flatten
      return Value.gather m (Value.pairs vs)) := by
  induction n generalizing m with
  | zero => rw [readEntries_zero]; rfl
  | succ n ih =>
    have hparts : (List.replicate (n + 1) [k, v]).flatten =
        k :: v :: (List.replicate n [k, v]).flatten := rfl
    rw [readEntries_succ, hparts]
    simp only [readParts, bind_assoc, pure_bind, ih]
    rfl

/-- **Reading a value is reading its head and then its parts.** -/
theorem read_eq_head (t : WireType) : S.read t = (do
    let h ← S.head t
    let vs ← S.readParts h.parts
    return h.build vs) := by
  cases t with
  | unit => rw [read_unit]; rfl
  | bool => rw [read_bool]; simp only [head, bind_assoc, pure_bind, readParts]
  | scalar t => rw [read_scalar]; simp only [head, bind_assoc, pure_bind, readParts]
  | text => rw [read_text]; simp only [head, bind_assoc, pure_bind, readParts]
  | bytes => rw [read_bytes]; simp only [head, bind_assoc, pure_bind, readParts]
  | optional t =>
    rw [read_optional, head, bind_assoc]
    refine congrArg _ (funext fun there => ?_)
    cases there <;> simp [readParts]
  | sequence t =>
    rw [read_sequence]
    simp only [head, bind_assoc, pure_bind, readMany_eq_readParts]
  | map k v =>
    rw [read_map]
    simp only [head, bind_assoc, pure_bind, readEntries_eq_readParts]
    rfl
  | named name =>
    cases hs : S.shape name with
    | record fields =>
      rw [S.read_record hs, head, hs, readFields_eq_readParts]
      rfl
    | choice variants =>
      rw [S.read_choice hs, head, hs]
      simp only [bind_assoc]
      refine congrArg _ (funext fun tag => ?_)
      cases variants.find? (·.tag = tag) with
      | some v => simp only [readFields_eq_readParts, pure_bind]
      | none => rfl

theorem head_record {name : String} {fields : List Field} (h : S.shape name = .record fields) :
    S.head (.named name) = return ⟨fields.map (·.type), .record⟩ := by
  rw [head, h]

theorem takes_head_choice {name : String} {variants : List Variant}
    (h : S.shape name = .choice variants) : Takes 4 (S.head (.named name)) := by
  rw [head, h]
  refine takes_tag.bind (k := 0) fun tag => ?_
  cases variants.find? (·.tag = tag) with
  | some v => exact takes_pure _
  | none => exact takes_throw ..

/-- A head takes at least a byte, or the parts are those of a record. -/
theorem takes_head (t : WireType) : Takes 1 (S.head t) ∨
    ∃ h, S.head t = pure h ∧ ∀ u ∈ h.parts, S.level u < S.level t := by
  have one {α : Type} {k : Nat} {r : Reader α} {f : α → Reader Head} (hr : Takes (k + 1) r)
      (hf : ∀ a, Takes 0 (f a)) : Takes 1 (r >>= f) := (hr.bind hf).mono (by omega)
  cases t with
  | unit => exact .inr ⟨_, rfl, nofun⟩
  | bool => exact .inl (one takes_bool fun _ => takes_pure _)
  | scalar t =>
    refine .inl (one (k := t.width - 1) ?_ fun _ => takes_pure _)
    rw [Nat.sub_add_cancel (by cases t <;> decide)]
    exact takes_scalar t
  | text => exact .inl (one takes_text fun _ => takes_pure _)
  | bytes => exact .inl (one takes_bytes fun _ => takes_pure _)
  | optional t =>
    refine .inl (one takes_presence fun there => ?_)
    cases there <;> exact takes_pure _
  | sequence t => exact .inl (one takes_length fun _ => takes_pure _)
  | map k v => exact .inl (one takes_length fun _ => takes_pure _)
  | named name =>
    cases hs : S.shape name with
    | record fields =>
      refine .inr ⟨_, S.head_record hs, ?_⟩
      intro u hu
      obtain ⟨f, hf, rfl⟩ := List.mem_map.1 hu
      exact Nat.lt_succ_of_le (S.guarded name fields hs f hf)
    | choice variants => exact .inl ((S.takes_head_choice hs).mono (by decide))

theorem onward_of_readParts {ts : List WireType} {c c' : Cursor} {vs : List Value}
    (h : S.readParts ts c = .ok vs c') : c.Onward c' := by
  induction ts generalizing c vs with
  | nil =>
    obtain ⟨-, rfl⟩ := pure_ok h
    exact .refl c
  | cons t ts ih =>
    obtain ⟨v, c₁, hv, hrest⟩ := bind_ok h
    obtain ⟨vs, c₂, hvs, hret⟩ := bind_ok hrest
    obtain ⟨-, rfl⟩ := pure_ok hret
    exact (S.onward_of_read hv).trans (ih hvs)

variable {S} in
/-- A value takes at least as many bytes as its head. -/
theorem remaining_of_read {t : WireType} {k : Nat} (takes : Takes k (S.head t)) {c c' : Cursor}
    {v : Value} (h : S.read t c = .ok v c') : c'.remaining + k ≤ c.remaining := by
  rw [read_eq_head] at h
  obtain ⟨hd, c₁, hhead, hrest⟩ := bind_ok h
  obtain ⟨vs, c₂, hvs, hret⟩ := bind_ok hrest
  obtain ⟨-, rfl⟩ := pure_ok hret
  have hk := takes.ok c hd c₁ hhead
  have hle := (S.onward_of_readParts hvs).le
  omega

/-- **On the way to the parts** reading moves on, and has taken a byte or comes to a lower level. -/
theorem head_descends {t : WireType} {c c₁ : Cursor} {h : Head} (hh : S.head t c = .ok h c₁) :
    c.Onward c₁ ∧ ∀ u ∈ h.parts, c₁.remaining < c.remaining ∨ S.level u < S.level t := by
  rcases S.takes_head t with takes | ⟨h', heq, lower⟩
  · have onward := takes.onward c
    rw [hh] at onward
    exact ⟨onward, fun _ _ => .inl (takes.ok c h c₁ hh)⟩
  · rw [heq] at hh
    cases hh
    exact ⟨.refl c, fun u hu => .inr (lower u hu)⟩

end Schema

/-! ### Visits -/

/-- A place where a type is read, with the places where its parts are read, as far as it comes to
that. -/
structure Visit where
  type : WireType
  start : Cursor
  inner : List Visit

namespace Visit

/-- A visit is inside another one, at any depth. -/
inductive Inside (w : Visit) : Visit → Prop
  | part : w ∈ inner v → Inside w v
  | deeper : u ∈ inner v → Inside w u → Inside w v

mutual
/-- How many visits to a named type lie one inside the other, at most. -/
def depth (name : String) : Visit → Nat
  | ⟨t, _, vs⟩ => if t = .named name then deepest name vs + 1 else deepest name vs
/-- The highest of the depths of some visits. -/
def deepest (name : String) : List Visit → Nat
  | [] => 0
  | v :: vs => max (depth name v) (deepest name vs)
end

theorem deepest_le {name : String} {vs : List Visit} {n : Nat}
    (h : ∀ v ∈ vs, v.depth name ≤ n) : deepest name vs ≤ n := by
  induction vs with
  | nil => exact Nat.zero_le n
  | cons v vs ih =>
    exact Nat.max_le.2 ⟨h v (.head _), ih fun w hw => h w (.tail _ hw)⟩

end Visit

namespace Schema

mutual
/-- Reading a value of a type runs to its end, with these visits and this outcome. -/
inductive Runs (S : Schema) : WireType → Cursor → Visit →
    EStateM.Result WireError Cursor Value → Prop
  | refused : S.head t c = .error e c' → Runs S t c ⟨t, c, []⟩ (.error e c')
  | opened : S.head t c = .ok h c₁ → RunsParts S h.parts c₁ vs r →
    Runs S t c ⟨t, c, vs⟩ (mapped h.build r)
/-- Reading parts one after the other runs to its end: after the first of them that fails, none is
read. -/
inductive RunsParts (S : Schema) : List WireType → Cursor → List Visit →
    EStateM.Result WireError Cursor (List Value) → Prop
  | done (c : Cursor) : RunsParts S [] c [] (.ok [] c)
  | failed (ts : List WireType) : Runs S t c v (.error e c') →
    RunsParts S (t :: ts) c [v] (.error e c')
  | next : Runs S t c v (.ok a c₁) → RunsParts S ts c₁ vs r →
    RunsParts S (t :: ts) c (v :: vs) (mapped (a :: ·) r)
end

variable {S : Schema}

/-! ### Every reading runs to its end -/

theorem runsParts_readParts (ts : List WireType) (c : Cursor)
    (h : ∀ t ∈ ts, ∀ c', c.Onward c' → ∃ v, S.Runs t c' v (S.read t c')) :
    ∃ vs, S.RunsParts ts c vs (S.readParts ts c) := by
  induction ts generalizing c with
  | nil => exact ⟨[], .done c⟩
  | cons t ts ih =>
    obtain ⟨v, hv⟩ := h t (.head _) c (.refl c)
    rw [readParts]
    cases hr : S.read t c with
    | error e c' =>
      rw [bind_of_error hr]
      exact ⟨[v], .failed ts (hr ▸ hv)⟩
    | ok a c₁ =>
      have hon := S.onward_of_read hr
      obtain ⟨vs, hvs⟩ := ih c₁ fun u hu c' hc' => h u (.tail _ hu) c' (hon.trans hc')
      rw [bind_of_ok hr, bind_pure_apply]
      exact ⟨v :: vs, .next (hr ▸ hv) hvs⟩

/-- **Every reading runs to its end**, and `S.read` is its outcome. -/
theorem runs_read (t : WireType) (c : Cursor) : ∃ v, S.Runs t c v (S.read t c) := by
  rw [read_eq_head]
  cases hh : S.head t c with
  | error e c' =>
    rw [bind_of_error hh]
    exact ⟨_, .refused hh⟩
  | ok h c₁ =>
    obtain ⟨vs, hvs⟩ := runsParts_readParts h.parts c₁ fun u hu c' hc' => runs_read u c'
    rw [bind_of_ok hh, bind_pure_apply]
    exact ⟨⟨t, c, vs⟩, .opened hh hvs⟩
termination_by (c.remaining, S.level t)
decreasing_by
  -- the parts begin where the head ends, or further on
  obtain ⟨hon, hlow⟩ := S.head_descends hh
  rcases Nat.lt_or_eq_of_le (hon.trans hc').le with hlt | heq
  · exact .left _ _ hlt
  · rw [heq]
    refine .right _ ((hlow u hu).resolve_left ?_)
    have := hc'.le
    omega

mutual
/-- A reading runs in one way only. -/
theorem Runs.unique {t : WireType} {c : Cursor} {v v' : Visit}
    {r r' : EStateM.Result WireError Cursor Value} : S.Runs t c v r → S.Runs t c v' r' →
      v = v' ∧ r = r'
  | .refused h, .refused h' => by
    rw [h] at h'
    cases h'
    exact ⟨rfl, rfl⟩
  | .refused h, .opened h' _ => by
    rw [h] at h'
    cases h'
  | .opened h _, .refused h' => by
    rw [h] at h'
    cases h'
  | .opened h hs, .opened h' hs' => by
    rw [h] at h'
    cases h'
    obtain ⟨rfl, rfl⟩ := hs.unique hs'
    exact ⟨rfl, rfl⟩
theorem RunsParts.unique {ts : List WireType} {c : Cursor} {vs vs' : List Visit}
    {r r' : EStateM.Result WireError Cursor (List Value)} : S.RunsParts ts c vs r →
      S.RunsParts ts c vs' r' → vs = vs' ∧ r = r'
  | .done _, .done _ => ⟨rfl, rfl⟩
  | .failed _ h, .failed _ h' => by
    obtain ⟨rfl, heq⟩ := h.unique h'
    cases heq
    exact ⟨rfl, rfl⟩
  | .failed _ h, .next h' _ => by
    cases (h.unique h').2
  | .next h _, .failed _ h' => by
    cases (h.unique h').2
  | .next h hs, .next h' hs' => by
    obtain ⟨rfl, heq⟩ := h.unique h'
    cases heq
    obtain ⟨rfl, rfl⟩ := hs.unique hs'
    exact ⟨rfl, rfl⟩
end

theorem Runs.eq_read {t : WireType} {c : Cursor} {v : Visit}
    {r : EStateM.Result WireError Cursor Value} (h : S.Runs t c v r) : r = S.read t c := by
  obtain ⟨v', h'⟩ := S.runs_read t c
  exact (h.unique h').2

/-! ### Visits inside visits -/

theorem Runs.place {t : WireType} {c : Cursor} {v : Visit}
    {r : EStateM.Result WireError Cursor Value} (h : S.Runs t c v r) : v.type = t ∧ v.start = c := by
  cases h <;> exact ⟨rfl, rfl⟩

/-- Every visit to a part is a reading that runs to its end, of one of the parts, further on. -/
theorem RunsParts.visited {ts : List WireType} {c : Cursor} {vs : List Visit}
    {r : EStateM.Result WireError Cursor (List Value)} : S.RunsParts ts c vs r →
      ∀ w ∈ vs, w.type ∈ ts ∧ c.Onward w.start ∧ ∃ r', S.Runs w.type w.start w r'
  | .done _ => nofun
  | .failed ts h => by
    intro w hw
    obtain rfl := List.mem_singleton.1 hw
    obtain ⟨rfl, rfl⟩ := h.place
    exact ⟨.head _, .refl _, _, h⟩
  | .next h hs => by
    intro w hw
    rcases List.mem_cons.1 hw with rfl | hw
    · obtain ⟨rfl, rfl⟩ := h.place
      exact ⟨.head _, .refl _, _, h⟩
    · obtain ⟨htype, hon, hruns⟩ := hs.visited w hw
      exact ⟨.tail _ htype, (S.onward_of_read h.eq_read.symm).trans hon, hruns⟩

/-- A reading of `u` at `c'` inside one of `t` at `c`: it is not before it, and if it is not after it
either, its type is of a lower level. -/
structure Descends (S : Schema) (t : WireType) (c : Cursor) (u : WireType) (c' : Cursor) : Prop where
  onward : c.Onward c'
  lower : c'.remaining < c.remaining ∨ S.level u < S.level t

theorem Descends.trans {t₁ t₂ t₃ : WireType} {c₁ c₂ c₃ : Cursor} (h : S.Descends t₁ c₁ t₂ c₂)
    (h' : S.Descends t₂ c₂ t₃ c₃) : S.Descends t₁ c₁ t₃ c₃ := by
  refine ⟨h.onward.trans h'.onward, ?_⟩
  have hle := h.onward.le
  have hle' := h'.onward.le
  have hlow := h.lower
  have hlow' := h'.lower
  omega

/-- A type inside itself is read at a later place. -/
theorem Descends.later {t : WireType} {c c' : Cursor} (h : S.Descends t c t c') :
    c.position < c'.position := by
  obtain ⟨n, hn, rfl⟩ := h.onward
  have hlt := h.lower.resolve_right (Nat.lt_irrefl _)
  simp only [Cursor.remaining, Cursor.skip, List.length_drop] at hlt ⊢
  omega

/-- **One step inwards** goes down. -/
theorem Runs.descends {t : WireType} {c : Cursor} {v w : Visit}
    {r : EStateM.Result WireError Cursor Value} (h : S.Runs t c v r) (hw : w ∈ v.inner) :
    S.Descends t c w.type w.start ∧ ∃ r', S.Runs w.type w.start w r' := by
  cases h with
  | refused => cases hw
  | opened hh hs =>
    obtain ⟨hon, hlow⟩ := S.head_descends hh
    obtain ⟨htype, hon', hruns⟩ := hs.visited w hw
    refine ⟨⟨hon.trans hon', (hlow _ htype).imp_left ?_⟩, hruns⟩
    exact Nat.lt_of_le_of_lt hon'.le

/-- **Every way inwards** goes down. -/
theorem Runs.descends_inside {t : WireType} {c : Cursor} {v w : Visit}
    {r : EStateM.Result WireError Cursor Value} (h : S.Runs t c v r) (hw : w.Inside v) :
    S.Descends t c w.type w.start ∧ ∃ r', S.Runs w.type w.start w r' := by
  induction hw generalizing t c r with
  | part hw => exact h.descends hw
  | deeper hu _ ih =>
    obtain ⟨hdown, r', hu⟩ := h.descends hu
    obtain ⟨hdown', hruns⟩ := ih hu
    exact ⟨hdown.trans hdown', hruns⟩

/-! ### Depth -/

/-- Visits to a named type are nested at most once for each byte, and once more where reading can come
to the type without taking a byte. -/
theorem Runs.depth_le (name : String) {t : WireType} {c : Cursor} {v : Visit}
    {r : EStateM.Result WireError Cursor Value} (h : S.Runs t c v r) :
    v.depth name ≤ c.remaining + if S.level (.named name) ≤ S.level t then 1 else 0 := by
  have inner : ∀ w ∈ v.inner, w.depth name ≤
      w.start.remaining + if S.level (.named name) ≤ S.level w.type then 1 else 0 := by
    intro w hw
    obtain ⟨-, r', hruns⟩ := h.descends hw
    exact hruns.depth_le name
  obtain ⟨rfl, rfl⟩ := h.place
  obtain ⟨t, c, vs⟩ := v
  rw [Visit.depth]
  split
  · -- inside of it, either a byte has been taken or the type is of a lower level
    next ht =>
    subst ht
    rw [if_pos (Nat.le_refl _)]
    refine Nat.succ_le_succ (Visit.deepest_le fun w hw => ?_)
    have hw' := inner w hw
    obtain ⟨hdown, -⟩ := h.descends hw
    have hle := hdown.onward.le
    have hlow := hdown.lower
    dsimp only at hle hlow ⊢
    split at hw' <;> omega
  · refine Visit.deepest_le fun w hw => ?_
    have hw' := inner w hw
    obtain ⟨hdown, -⟩ := h.descends hw
    have hle := hdown.onward.le
    have hlow := hdown.lower
    dsimp only at hle hlow ⊢
    split at hw' <;> split <;> omega
termination_by v
decreasing_by
  obtain ⟨t, c, vs⟩ := v
  have := List.sizeOf_lt_of_mem hw
  simp only [Visit.mk.sizeOf_spec] at this ⊢
  omega

/-! ### Elements -/

/-- Where each part takes at least `m` bytes, no more of them are visited than there is room for, and
one more; and if all of them are read, there was room for all. -/
theorem RunsParts.room {u : WireType} {m : Nat}
    (hm : ∀ c a c', S.read u c = .ok a c' → c'.remaining + m ≤ c.remaining)
    {ts : List WireType} {c : Cursor} {vs : List Visit}
    {r : EStateM.Result WireError Cursor (List Value)} : S.RunsParts ts c vs r →
      (∀ t ∈ ts, t = u) → vs.length * m ≤ c.remaining + m ∧
        ∀ as c', r = .ok as c' → ts.length * m + c'.remaining ≤ c.remaining
  | .done c, _ => by
    refine ⟨by simp, fun as c' heq => ?_⟩
    cases heq
    simp
  | .failed ts h, _ => by
    exact ⟨by simp, nofun⟩
  | .next (r := r) h hs, all => by
    obtain ⟨hlen, hok⟩ := hs.room hm fun t ht => all t (.tail _ ht)
    have htakes := hm _ _ _ (all _ (.head _) ▸ h.eq_read.symm)
    simp only [List.length_cons, Nat.succ_mul]
    refine ⟨by omega, ?_⟩
    cases r with
    | error => exact nofun
    | ok as c₂ =>
      intro _ _ heq
      cases heq
      have := hok _ _ rfl
      omega

/-- A count that asks for more elements than the bytes can hold is refused, and not before it has to
be and not much later. -/
theorem Runs.elements {u : WireType} {m : Nat} (pos : 0 < m)
    (hm : ∀ c a c', S.read u c = .ok a c' → c'.remaining + m ≤ c.remaining)
    {c c₁ : Cursor} {n : Nat} (hn : length c = .ok n c₁) {v : Visit}
    {r : EStateM.Result WireError Cursor Value} (h : S.Runs (.sequence u) c v r) :
    v.inner.length ≤ c₁.remaining / m + 1 ∧
      (c₁.remaining / m < n → ∃ e c', r = .error e c') := by
  have hhead : S.head (.sequence u) c = .ok ⟨List.replicate n u, .sequence⟩ c₁ := by
    rw [head, bind_of_ok hn]
    rfl
  cases h with
  | refused hh =>
    rw [hhead] at hh
    cases hh
  | opened hh hs =>
    rename_i r
    rw [hhead] at hh
    cases hh
    obtain ⟨hlen, hok⟩ := hs.room hm fun t ht => List.eq_of_mem_replicate ht
    constructor
    · rw [← Nat.add_div_right _ pos]
      exact (Nat.le_div_iff_mul_le pos).2 hlen
    · intro hlt
      cases r with
      | error e c' => exact ⟨e, c', rfl⟩
      | ok as c' =>
        have hall := hok as c' rfl
        rw [List.length_replicate] at hall
        have hle := (Nat.le_div_iff_mul_le pos).2 (Nat.le_trans (Nat.le_add_right ..) hall)
        omega

/-! ### Ranks -/

/-- A record has a field of a named type itself, and not only one of sequences, optionals or maps of
it. -/
def Opens (shape : String → Shape) (a b : String) : Prop :=
  ∃ fields f, shape a = .record fields ∧ f ∈ fields ∧ f.type = .named b

section Ranks

variable {shape : String → Shape}

open Classical in
/-- How many records a record opens one inside the other, at most, before it takes a byte. -/
noncomputable def rankOf (ends : WellFounded fun b a => Opens shape a b) : String → Nat :=
  ends.fix fun a below =>
    match shape a with
    | .record fields => (fields.map fun f =>
        f.type.level fun b => if h : Opens shape a b then below b h else 0).max?.getD 0
    | .choice _ => 0

theorem level_rankOf_le (ends : WellFounded fun b a => Opens shape a b) {name : String}
    {fields : List Field} (h : shape name = .record fields) {f : Field} (hf : f ∈ fields) :
    f.type.level (rankOf ends) ≤ rankOf ends name := by
  classical
  have hrank : rankOf ends name = (fields.map fun f => f.type.level fun b =>
      if Opens shape name b then rankOf ends b else 0).max?.getD 0 := by
    rw [rankOf, WellFounded.fix_eq, h]
    rfl
  rw [hrank]
  refine List.le_max?_getD_of_mem (List.mem_map.2 ⟨f, hf, ?_⟩)
  cases ht : f.type with
  | named b =>
    have hopens : Opens shape name b := ⟨fields, f, h, hf, ht⟩
    simp only [WireType.level, if_pos hopens]
  | _ => rfl

/-- **The schemas** are all declarations in which no record opens itself, however far down, but
through a sequence, an optional, a map or a choice. -/
theorem exists_schema_iff :
    (∃ S : Schema, S.shape = shape) ↔ WellFounded fun b a => Opens shape a b := by
  constructor
  · rintro ⟨S, rfl⟩
    refine Subrelation.wf ?_ (measure S.rank).wf
    rintro b a ⟨fields, f, hs, hf, ht⟩
    have hle := S.guarded a fields hs f hf
    rwa [ht] at hle
  · intro ends
    exact ⟨⟨shape, rankOf ends, fun name fields h f hf => level_rankOf_le ends h hf⟩, rfl⟩

end Ranks

/-! ### What a reading comes to -/

/-- Reading a `t` from the place `c` ends, with a tree `v` of visits that the unread bytes keep small. -/
structure Ends (S : Schema) (t : WireType) (c : Cursor) (v : Visit) : Prop where
  /-- The reading runs to its end, -/
  runs : S.Runs t c v (S.read t c)
  /-- and in no other way. -/
  only : ∀ v' r, S.Runs t c v' r → v' = v ∧ r = S.read t c
  /-- Each visit inside is a reading of its own. -/
  inner : ∀ w : Visit, w.Inside v → S.Runs w.type w.start w (S.read w.type w.start)
  /-- The type inside itself is read at a later place, -/
  later : ∀ w : Visit, w.Inside v → w.type = t → c.position < w.start.position
  /-- and no named type is nested deeper than there are bytes. -/
  depth : ∀ name, v.depth name ≤ c.remaining + 1
  /-- Of elements that take `m` bytes each, no more are read than fit into what is left after the
  count, and one more; and more of them than fit are refused. -/
  elements : ∀ u m, t = .sequence u → 0 < m →
    (∀ c a c', S.read u c = .ok a c' → c'.remaining + m ≤ c.remaining) →
    ∀ n c₁, length c = .ok n c₁ → v.inner.length ≤ c₁.remaining / m + 1 ∧
      (c₁.remaining / m < n → ∃ e c', S.read t c = .error e c')

/-- **Reading ends, and what it does is bounded by the bytes.**  This is so for every schema, type
and place in a byte run, and the schemas are all declarations in which no record opens itself
directly. -/
theorem reading_ends :
    (∀ (S : Schema) (t : WireType) (c : Cursor), ∃ v, S.Ends t c v) ∧
    ∀ shape : String → Shape, (WellFounded fun b a => Opens shape a b) →
      ∃ S : Schema, S.shape = shape := by
  refine ⟨fun S t c => ?_, fun shape => exists_schema_iff.2⟩
  obtain ⟨v, hv⟩ := S.runs_read t c
  refine ⟨v, hv, ?_, ?_, ?_, ?_, ?_⟩
  · intro v' r h
    exact h.unique hv
  · intro w hw
    obtain ⟨-, r', h⟩ := hv.descends_inside hw
    exact h.eq_read ▸ h
  · intro w hw ht
    have hdown := (hv.descends_inside hw).1
    rw [ht] at hdown
    exact hdown.later
  · intro name
    refine Nat.le_trans (hv.depth_le name) (Nat.add_le_add_left ?_ _)
    split <;> decide
  · rintro u m rfl pos hm n c₁ hn
    exact hv.elements pos hm hn

/-- Of shapes, which take a tag each, a count asks for as many as it can; but four bytes are left, so
that only two of them are read. -/
theorem reading_ends_shapes : ∃ v,
    Sample.schema.Ends (.sequence (.named "Shape"))
      ⟨0, [0x7f, 0xff, 0xff, 0xff, 0, 0, 0, 1]⟩ v ∧ v.inner.length ≤ 2 ∧
      ∃ e c', Sample.schema.read (.sequence (.named "Shape"))
        ⟨0, [0x7f, 0xff, 0xff, 0xff, 0, 0, 0, 1]⟩ = .error e c' := by
  obtain ⟨v, h⟩ := reading_ends.1 Sample.schema (.sequence (.named "Shape"))
    ⟨0, [0x7f, 0xff, 0xff, 0xff, 0, 0, 0, 1]⟩
  have hcount : length ⟨0, [0x7f, 0xff, 0xff, 0xff, 0, 0, 0, 1]⟩ =
      .ok (2 ^ 31 - 1) ⟨4, [0, 0, 0, 1]⟩ := rfl
  obtain ⟨hlen, herr⟩ := h.elements (.named "Shape") 4 rfl (by decide)
    (fun c a c' => remaining_of_read (Sample.schema.takes_head_choice rfl)) _ _ hcount
  exact ⟨v, h, hlen, herr (by decide)⟩

end Schema

end CallBoundary
