import CallBoundary.Proofs.Wire.Canonical

/-!
# Cursors, step after step

A cursor goes on after a step that failed, so what it has done is told by how its steps ended.  One
step of reading uses up the bytes of what it gives, or of the length it refuses, or none
(`ReadStep.taken`); one step of writing puts down the bytes of its item, or nothing (`Item.puts`).
So after any run the place of a reader is behind all that was used up (`ReadStep.run_spans`), and a
region holds all that was put down, over its start (`Item.run_pushes`).

Items that were all put down are read again, each by the step that mirrors it (`Item.run_mirrored`).
-/

namespace CallBoundary

/-- What a step carries. -/
inductive Item where
  | scalar (s : Scalar)
  | bytes (bs : Bytes)
  | length (n : Nat)
deriving DecidableEq, Repr

/-- The bytes of an item. -/
def Item.encode : Item → Bytes
  | scalar s => s.encode
  | bytes bs => bs
  | length n => bigEndian 4 n

/-- A length has to fit its four bytes. -/
def Item.fits : Item → Prop
  | length n => n ≤ maxLength
  | _ => True

/-- A step of reading. -/
inductive ReadStep where
  | scalar (t : ScalarType)
  | take (n : Nat)
  | length
  | rest
deriving DecidableEq, Repr

namespace ReadStep

/-! ### Reading -/

/-- How many bytes a step asks for. -/
def needs : ReadStep → Nat
  | scalar t => t.width
  | take n => n
  | length => 4
  | rest => 0

/-- Reads what a step asks for. -/
def reader : ReadStep → Reader Item
  | scalar t => return .scalar (← Reader.scalar t)
  | take n => return .bytes (← Reader.take n)
  | length => return .length (← Reader.length)
  | rest => return .bytes (← Reader.rest)

/-- Takes the steps one after the other, whether or not they succeed. -/
def run (steps : List ReadStep) : StateM Cursor (List (Except WireError Item)) :=
  steps.mapM fun s => attempt s.reader

/-- The bytes that a step has used up, told by how it ended. -/
def used : Except WireError Item → Bytes
  | .ok i => i.encode
  | .error (.negativeLength n) => Scalar.encode ⟨.i32, .ofInt 32 n⟩
  | .error _ => []

variable {c : Cursor}

/-- Where bytes are missing, a step says how many it asks for, and stays. -/
theorem reader_short {step : ReadStep} (h : c.remaining < step.needs) :
    step.reader c = .error (.truncated step.needs c.remaining) c := by
  have short {n : Nat} (hn : c.remaining < n) :
      Reader.take n c = .error (.truncated n c.remaining) c := by
    rw [Reader.take_apply, if_neg (Nat.not_le.2 hn)]
  cases step with
  | scalar t => exact bind_of_error (bind_of_error (short h) _) _
  | take n => exact bind_of_error (short h) _
  | length => exact bind_of_error (bind_of_error (bind_of_error (short h) _) _) _
  | rest => exact absurd h (Nat.not_lt_zero _)

theorem take_enough {n : Nat} (h : n ≤ c.remaining) :
    Reader.take n c = .ok (c.unread.take n) (c.skip n) := by
  rw [Reader.take_apply, if_pos h]

theorem scalar_enough {t : ScalarType} (h : t.width ≤ c.remaining) :
    ∃ s c', Reader.scalar t c = .ok s c' ∧ c.Spans s.encode c' ∧ s.type = t := by
  have hread : Reader.scalar t c = .ok (.ofBytes t (c.unread.take t.width)) (c.skip t.width) :=
    bind_of_ok (take_enough h) _
  exact ⟨_, _, hread, Reader.spans_scalar hread⟩

/-- Where there are enough bytes, a step gives an item, or refuses a length below zero. -/
theorem reader_enough {step : ReadStep} (h : step.needs ≤ c.remaining) :
    (∃ i c', step.reader c = .ok i c' ∧ c.Spans i.encode c') ∨
    ∃ n c', step.reader c = .error (.negativeLength n) c' ∧
      c.Spans (Scalar.encode ⟨.i32, .ofInt 32 n⟩) c' := by
  cases step with
  | scalar t =>
    obtain ⟨s, c', hread, hspans, -⟩ := scalar_enough h
    exact .inl ⟨.scalar s, c', bind_of_ok hread _, hspans⟩
  | take n =>
    have htake := take_enough h
    exact .inl ⟨.bytes _, _, bind_of_ok htake _, (Reader.spans_take htake).1⟩
  | length =>
    obtain ⟨⟨t, w⟩, c', hread, hspans, rfl⟩ := scalar_enough (t := .i32) h
    have hlength := bind_of_ok hread fun s =>
      (if s.toInt < 0 then throw (.negativeLength s.toInt) else return s.toInt.toNat : Reader Nat)
    by_cases hneg : Scalar.toInt ⟨.i32, w⟩ < 0
    · rw [if_pos hneg] at hlength
      refine .inr ⟨_, c', bind_of_error hlength _, ?_⟩
      have hword : BitVec.ofInt 32 w.toInt = w := BitVec.ofInt_toInt
      show c.Spans (Scalar.encode ⟨.i32, BitVec.ofInt 32 w.toInt⟩) c'
      rwa [hword]
    · rw [if_neg hneg] at hlength
      exact .inl ⟨.length _, c', bind_of_ok hlength _, (Reader.spans_length hlength).1⟩
  | rest =>
    refine .inl ⟨.bytes c.unread, c.skip c.remaining, rfl, ?_, rfl⟩
    show c.unread = c.unread ++ c.unread.drop c.unread.length
    rw [List.drop_length, List.append_nil]

/-- What a step does at a place. -/
structure Taken (step : ReadStep) (c : Cursor) (r : Except WireError Item) (c' : Cursor) :
    Prop where
  spans : c.Spans (used r) c'
  short : c.remaining < step.needs → r = .error (.truncated step.needs c.remaining)
  truncated : ∀ needed remaining, r = .error (.truncated needed remaining) →
    needed = step.needs ∧ remaining = c.remaining ∧ remaining < needed ∧ c' = c

/-- **One step of reading** uses up what it gives or refuses, or nothing. -/
theorem taken (step : ReadStep) (c : Cursor) :
    step.Taken c (attempt step.reader c).1 (attempt step.reader c).2 := by
  by_cases h : c.remaining < step.needs
  · rw [attempt_error (reader_short h)]
    refine ⟨c.spans_nil, fun _ => rfl, ?_⟩
    rintro _ _ ⟨⟩
    exact ⟨rfl, rfl, h, rfl⟩
  · rcases reader_enough (Nat.not_lt.1 h) with ⟨i, c', hread, hspans⟩ | ⟨n, c', hread, hspans⟩
    · rw [attempt_ok hread]
      exact ⟨hspans, fun hshort => absurd hshort h, nofun⟩
    · rw [attempt_error hread]
      exact ⟨hspans, fun hshort => absurd hshort h, nofun⟩

theorem run_cons (step : ReadStep) (steps : List ReadStep) (c : Cursor) :
    run (step :: steps) c =
      ((attempt step.reader c).1 :: (run steps (attempt step.reader c).2).1,
        (run steps (attempt step.reader c).2).2) :=
  stateM_mapM_cons _ step steps c

theorem run_snoc (steps : List ReadStep) (step : ReadStep) (c : Cursor) :
    run (steps ++ [step]) c =
      ((run steps c).1 ++ [(attempt step.reader (run steps c).2).1],
        (attempt step.reader (run steps c).2).2) :=
  stateM_mapM_snoc _ steps step c

/-- **A run of steps** gets behind all that they have used up. -/
theorem run_spans (steps : List ReadStep) (c : Cursor) :
    c.Spans ((run steps c).1.flatMap used) (run steps c).2 := by
  induction steps generalizing c with
  | nil => exact c.spans_nil
  | cons step steps ih =>
    rw [run_cons, List.flatMap_cons]
    exact (step.taken c).spans.append (ih _)

end ReadStep

namespace Item

/-! ### Writing -/

/-- Puts an item down. -/
def writer : Item → Writer Unit
  | scalar s => Writer.scalar s
  | bytes bs => Writer.put bs
  | length n => Writer.length n

/-- Puts the items down one after the other, whether or not each of them can be. -/
def run (items : List Item) : StateM Region (List (Except WireError Unit)) :=
  items.mapM fun i => attempt i.writer

/-- The bytes of the items that could be put down. -/
def stored (items : List Item) (rs : List (Except WireError Unit)) : Bytes :=
  (items.zip rs).flatMap fun x => if x.2.isOk then x.1.encode else []

/-- What a step does to a region. -/
structure Puts (i : Item) (q : Region) (r : Except WireError Unit) (q' : Region) : Prop where
  ok_iff : r = .ok () ↔ i.fits ∧ i.encode.length ≤ q.available
  ok : r = .ok () → q' = q.push i.encode
  error : ∀ e, r = .error e → q' = q

theorem puts_bytes (bs : Bytes) (q : Region) :
    (bytes bs).Puts q (attempt (Writer.put bs) q).1 (attempt (Writer.put bs) q).2 := by
  by_cases room : bs.length ≤ q.available
  · rw [attempt_ok (Writer.put_eq room)]
    exact ⟨⟨fun _ => ⟨trivial, room⟩, fun _ => rfl⟩, fun _ => rfl, nofun⟩
  · have hput : Writer.put bs q = .error (.overflow bs.length q.available) q := by
      rw [Writer.put_apply, if_neg room]
    rw [attempt_error hput]
    exact ⟨⟨nofun, fun h => absurd h.2 room⟩, nofun, fun _ _ => rfl⟩

/-- **One step of writing** puts down its item, or nothing. -/
theorem puts (i : Item) (q : Region) :
    i.Puts q (attempt i.writer q).1 (attempt i.writer q).2 := by
  cases i with
  | scalar s => exact ⟨(puts_bytes s.encode q).ok_iff, (puts_bytes _ q).ok, (puts_bytes _ q).error⟩
  | bytes bs => exact puts_bytes bs q
  | length n =>
    have hput := puts_bytes (bigEndian 4 n) q
    show Puts _ q (attempt (Writer.length n) q).1 (attempt (Writer.length n) q).2
    unfold Writer.length
    by_cases hn : n ≤ maxLength
    · rw [if_pos hn]
      refine ⟨hput.ok_iff.trans ?_, hput.ok, hput.error⟩
      exact ⟨fun h => ⟨hn, h.2⟩, fun h => ⟨trivial, h.2⟩⟩
    · rw [if_neg hn]
      exact ⟨⟨nofun, fun h => absurd h.1 hn⟩, nofun, fun _ _ => rfl⟩

theorem run_cons (i : Item) (items : List Item) (q : Region) :
    run (i :: items) q =
      ((attempt i.writer q).1 :: (run items (attempt i.writer q).2).1,
        (run items (attempt i.writer q).2).2) :=
  stateM_mapM_cons _ i items q

theorem run_snoc (items : List Item) (i : Item) (q : Region) :
    run (items ++ [i]) q =
      ((run items q).1 ++ [(attempt i.writer (run items q).2).1],
        (attempt i.writer (run items q).2).2) :=
  stateM_mapM_snoc _ items i q

/-- **A run of steps** puts down all that can be, one after the other. -/
theorem run_pushes (items : List Item) (q : Region) :
    (stored items (run items q).1).length ≤ q.available ∧
      (run items q).2 = q.push (stored items (run items q).1) := by
  induction items generalizing q with
  | nil => exact ⟨Nat.zero_le _, q.push_nil.symm⟩
  | cons i items ih =>
    have hstep := i.puts q
    obtain ⟨hlen, hrest⟩ := ih (attempt i.writer q).2
    rw [run_cons]
    cases h : (attempt i.writer q).1 with
    | ok =>
      rw [hstep.ok h, Region.available_push] at hlen
      have hroom := (hstep.ok_iff.1 h).2
      have hbytes : ∀ rs, stored (i :: items) (.ok () :: rs) = i.encode ++ stored items rs :=
        fun _ => rfl
      rw [hbytes, List.length_append, hrest, hstep.ok h, Region.push_push]
      exact ⟨by omega, rfl⟩
    | error e =>
      rw [hstep.error e h] at hlen
      have hbytes : ∀ rs, stored (i :: items) (.error e :: rs) = stored items rs := fun _ => rfl
      rw [hbytes, hrest, hstep.error e h]
      exact ⟨hlen, rfl⟩

/-! ### Reading what was put down -/

/-- The step that reads an item. -/
def mirror : Item → ReadStep
  | scalar s => .scalar s.type
  | bytes bs => .take bs.length
  | length _ => .length

theorem reads_mirror {i : Item} (h : i.fits) : Reader.Reads i.mirror.reader i.encode i := by
  cases i with
  | scalar s => exact (Reader.reads_scalar s).bind_pure rfl
  | bytes bs => exact (Reader.reads_take rfl).bind_pure rfl
  | length n => exact (Reader.reads_length h).bind_pure rfl

/-- Items in a row are read by the steps that mirror them, whatever follows. -/
theorem run_mirrored {items : List Item} (h : ∀ i ∈ items, i.fits) (p : Nat) (rest : Bytes) :
    ReadStep.run (items.map mirror) ⟨p, items.flatMap encode ++ rest⟩ =
      (items.map .ok, ⟨p + (items.flatMap encode).length, rest⟩) := by
  induction items generalizing p with
  | nil => rfl
  | cons i items ih =>
    have hread := reads_mirror (h i (.head _)) p (items.flatMap encode ++ rest)
    have hrest := ih (fun j hj => h j (.tail _ hj)) (p + i.encode.length)
    rw [List.flatMap_cons, List.append_assoc, List.map_cons, ReadStep.run_cons, attempt_ok hread,
      hrest, List.length_append, Nat.add_assoc]
    rfl

/-- If all steps succeed, all items fit and all of their bytes are put down. -/
theorem stored_of_ok {items : List Item} {q : Region} (h : ∀ r ∈ (run items q).1, r = .ok ()) :
    (∀ i ∈ items, i.fits) ∧ stored items (run items q).1 = items.flatMap encode := by
  induction items generalizing q with
  | nil => exact ⟨nofun, rfl⟩
  | cons i items ih =>
    rw [run_cons] at h ⊢
    have hfirst := h _ (.head _)
    obtain ⟨hfits, hbytes⟩ := ih fun r hr => h r (.tail _ hr)
    refine ⟨List.forall_mem_cons.2 ⟨((i.puts q).ok_iff.1 hfirst).1, hfits⟩, ?_⟩
    rw [List.flatMap_cons, ← hbytes, hfirst]
    rfl

end Item

/-! ### Runs from the start -/

theorem Cursor.Spans.of_start {bs passed : Bytes} {c : Cursor} (h : (start bs).Spans passed c) :
    c.position + c.remaining = bs.length ∧ passed = bs.take c.position := by
  obtain ⟨hbytes, hpos⟩ := h
  have hbytes : bs = passed ++ c.unread := hbytes
  have hpos : c.position = passed.length := hpos.trans (Nat.zero_add _)
  rw [hpos, hbytes]
  exact ⟨List.length_append.symm, List.take_left.symm⟩

theorem Region.contents_push_fresh (old bs : Bytes) :
    ((fresh old).push bs).contents = bs ++ old.drop bs.length := by
  rw [contents, written_push, written_fresh, List.nil_append]
  rfl

/-- How a reader stands after a step from one place to another of a byte run. -/
structure ReadStep.Advanced (bs : Bytes) (step : ReadStep) (c : Cursor)
    (outcomes : List (Except WireError Item)) (r : Except WireError Item) (c' : Cursor) : Prop
    extends step.Taken c r c' where
  whole : c'.position + c'.remaining = bs.length
  onward : c.position ≤ c'.position
  /-- All that was used up so far, in this order, is what stands before the place. -/
  consumed : (outcomes ++ [r]).flatMap used = bs.take c'.position

/-- How a region stands after a step, if these bytes have been put down so far. -/
structure Item.Overwritten (old : Bytes) (i : Item) (q : Region) (stored : Bytes)
    (r : Except WireError Unit) (q' : Region) : Prop extends i.Puts q r q' where
  within : stored.length ≤ old.length
  contents : q'.contents = stored ++ old.drop stored.length
  position : q'.position = stored.length

/-- **Cursors, step after step.**  After each step of a reader, the bytes used up so far are those
before its place, and a step that runs out of bytes uses none.  After each step of a writer, the
region is the old one with what was put down so far over its start, and a step that fails changes
nothing.  What was put down without a failure is read again by the steps that mirror it. -/
theorem cursor_runs :
    (∀ (bs : Bytes) (before : List ReadStep) (step : ReadStep), ∃ outcomes c r c',
      ReadStep.run before (.start bs) = (outcomes, c) ∧
      ReadStep.run (before ++ [step]) (.start bs) = (outcomes ++ [r], c') ∧
      step.Advanced bs c outcomes r c') ∧
    (∀ (old : Bytes) (before : List Item) (i : Item), ∃ outcomes q r q',
      Item.run before (.fresh old) = (outcomes, q) ∧
      Item.run (before ++ [i]) (.fresh old) = (outcomes ++ [r], q') ∧
      i.Overwritten old q (Item.stored (before ++ [i]) (outcomes ++ [r])) r q') ∧
    ∀ (old : Bytes) (items : List Item),
      (∀ r ∈ (Item.run items (.fresh old)).1, r = .ok ()) →
      let region := (Item.run items (.fresh old)).2
      ReadStep.run (items.map Item.mirror) (.start region.contents) =
        (items.map .ok, ⟨region.position, region.room⟩) := by
  refine ⟨?_, ?_, ?_⟩
  · intro bs before step
    have hsnoc := ReadStep.run_snoc before step (.start bs)
    have htaken := step.taken (ReadStep.run before (.start bs)).2
    have hspans := ReadStep.run_spans (before ++ [step]) (.start bs)
    rw [hsnoc] at hspans
    refine ⟨_, _, _, _, rfl, hsnoc, ?_⟩
    obtain ⟨whole, consumed⟩ := hspans.of_start
    exact ⟨htaken, whole, htaken.spans.2 ▸ Nat.le_add_right .., consumed⟩
  · intro old before i
    have hsnoc := Item.run_snoc before i (.fresh old)
    have hputs := i.puts (Item.run before (.fresh old)).2
    have hpushes := Item.run_pushes (before ++ [i]) (.fresh old)
    rw [hsnoc] at hpushes
    refine ⟨_, _, _, _, rfl, hsnoc, ?_⟩
    obtain ⟨within, pushed⟩ := hpushes
    refine ⟨hputs, within, ?_, ?_⟩
    · exact (congrArg Region.contents pushed).trans (Region.contents_push_fresh old _)
    · exact (congrArg Region.position pushed).trans
        ((Region.position_push _ _).trans (Nat.zero_add _))
  · intro old items ok region
    obtain ⟨-, pushed⟩ := Item.run_pushes items (.fresh old)
    obtain ⟨fits, bytes⟩ := Item.stored_of_ok ok
    rw [bytes] at pushed
    have hregion : region = (Region.fresh old).push (items.flatMap Item.encode) := pushed
    have hread := Item.run_mirrored fits 0 (old.drop (items.flatMap Item.encode).length)
    rw [hregion, Region.contents_push_fresh, Region.position_push]
    exact hread

/-- A number, a NaN with its payload, a length and two bytes, put down in a region with one byte
more than they take. -/
theorem cursor_runs_nan :
    let items : List Item :=
      [.scalar ⟨.i16, -2⟩, .scalar ⟨.f32, 0x7fc00001⟩, .length 2, .bytes [9, 8]]
    let run := Item.run items (.fresh (List.replicate 13 7))
    (∀ r ∈ run.1, r = .ok ()) ∧
    ReadStep.run [.scalar .i16, .scalar .f32, .length, .take 2] (.start run.2.contents) =
      (items.map .ok, ⟨run.2.position, run.2.room⟩) := by
  intro items run
  have ended : run.1 = List.replicate 4 (.ok ()) := rfl
  have ok : ∀ r ∈ run.1, r = .ok () := by
    rw [ended]
    exact fun r hr => List.eq_of_mem_replicate hr
  exact ⟨ok, cursor_runs.2.2 _ items ok⟩

end CallBoundary
