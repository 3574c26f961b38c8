import CallBoundary.Proofs.Host.Exporting

/-!
# Signatures that drift apart

Two builds whose signatures differ in one byte have different hashes (`hash_ne_of_apart`).  Each byte
of a signature is taken into the hash by a step that can be undone (`expel_absorb`), so what follows a
difference never makes up for it (`hash_append_inj`).

The checksum is shorter than the hash: it folds the four lanes of it into one (`fold_lanes`).  If the
startup gate lets such a change pass, the fold has made two hashes one, and nothing else has.
-/

namespace CallBoundary.Signature

/-! ### One byte after the other -/

/-- Takes one more byte into a hash. -/
def absorb (h : UInt64) (b : UInt8) : UInt64 := (h ^^^ b.toUInt64) * 0x100000001b3

/-- Takes the last byte out of a hash again. -/
def expel (h : UInt64) (b : UInt8) : UInt64 := h * 0xce965057aff6957b ^^^ b.toUInt64

theorem hash_append (p s : Bytes) : hash (p ++ s) = s.foldl absorb (hash p) := List.foldl_append

/-- The factor of a step has an inverse among the words of 64 bits. -/
theorem mul_factor_cancel (h : UInt64) : h * 0x100000001b3 * 0xce965057aff6957b = h := by
  have hunit : (0x100000001b3 : UInt64) * 0xce965057aff6957b = 1 := by decide
  rw [UInt64.mul_assoc, hunit, UInt64.mul_one]

/-- **A step can be undone** by whoever knows the byte. -/
theorem expel_absorb (h : UInt64) (b : UInt8) : expel (absorb h b) b = h := by
  rw [expel, absorb, mul_factor_cancel, UInt64.xor_assoc, UInt64.xor_self, UInt64.xor_zero]

theorem absorb_inj {h k : UInt64} {b : UInt8} : absorb h b = absorb k b ↔ h = k := by
  constructor
  · intro heq
    rw [← expel_absorb h b, heq, expel_absorb]
  · exact congrArg (absorb · b)

/-- Two bytes make two hashes out of one. -/
theorem absorb_byte_inj {h : UInt64} {a b : UInt8} : absorb h a = absorb h b ↔ a = b := by
  constructor
  · intro heq
    have hmixed : h ^^^ a.toUInt64 = h ^^^ b.toUInt64 := by
      rw [← mul_factor_cancel (h ^^^ a.toUInt64), ← mul_factor_cancel (h ^^^ b.toUInt64)]
      exact congrArg (· * 0xce965057aff6957b) heq
    have hword : a.toUInt64 = b.toUInt64 := (UInt64.xor_right_inj h).1 hmixed
    exact UInt8.toUInt64_inj.1 hword
  · exact congrArg (absorb h)

theorem foldl_absorb_inj {h k : UInt64} (s : Bytes) :
    s.foldl absorb h = s.foldl absorb k ↔ h = k := by
  induction s generalizing h k with
  | nil => rfl
  | cons b s ih => rw [List.foldl_cons, List.foldl_cons, ih, absorb_inj]

/-- **What follows tells no more and no less**: two runs that go on alike have the same hash if and
only if they had it before. -/
theorem hash_append_inj (p q s : Bytes) : hash (p ++ s) = hash (q ++ s) ↔ hash p = hash q := by
  rw [hash_append, hash_append, foldl_absorb_inj]

/-! ### A difference of one byte -/

/-- Two byte runs are of one length and differ in one place. -/
def OneByteApart (bs cs : Bytes) : Prop :=
  bs.length = cs.length ∧ (bs.zip cs).countP (fun b => b.1 != b.2) = 1

instance (bs cs : Bytes) : Decidable (OneByteApart bs cs) :=
  inferInstanceAs (Decidable (_ ∧ _))

/-- Byte runs of one length that differ nowhere are the same. -/
theorem eq_of_nowhere_apart : ∀ {bs cs : Bytes}, bs.length = cs.length →
    (bs.zip cs).countP (fun b => b.1 != b.2) = 0 → bs = cs
  | [], [], _, _ => rfl
  | b :: bs, c :: cs, hlen, hcount => by
    rw [List.zip_cons_cons, List.countP_cons] at hcount
    by_cases hb : b = c
    · subst hb
      rw [eq_of_nowhere_apart (Nat.succ.inj hlen) (by omega)]
    · simp [hb] at hcount

/-- The one place splits the runs into what is common before it and after it. -/
theorem OneByteApart.split : ∀ {bs cs : Bytes}, OneByteApart bs cs →
    ∃ p a b s, a ≠ b ∧ bs = p ++ a :: s ∧ cs = p ++ b :: s
  | [], _, ⟨_, hcount⟩ => by
    rw [List.zip_nil_left] at hcount
    cases hcount
  | b :: bs, c :: cs, ⟨hlength, hcount⟩ => by
    have hlen : bs.length = cs.length := Nat.succ.inj hlength
    rw [List.zip_cons_cons, List.countP_cons] at hcount
    by_cases hb : b = c
    · subst hb
      have hrest : OneByteApart bs cs := ⟨hlen, by simpa using hcount⟩
      obtain ⟨p, a, b', s, hne, rfl, rfl⟩ := hrest.split
      exact ⟨b :: p, a, b', s, hne, rfl, rfl⟩
    · have hrest : (bs.zip cs).countP (fun b => b.1 != b.2) = 0 := by simpa [hb] using hcount
      rw [eq_of_nowhere_apart hlen hrest]
      exact ⟨[], b, c, cs, hb, rfl, rfl⟩

/-- **One byte always shows in the hash.** -/
theorem hash_ne_of_apart {bs cs : Bytes} (apart : OneByteApart bs cs) : hash bs ≠ hash cs := by
  obtain ⟨p, a, b, s, hne, rfl, rfl⟩ := apart.split
  rw [hash_append, hash_append, List.foldl_cons, List.foldl_cons]
  intro heq
  have hstep : absorb (hash p) a = absorb (hash p) b := (foldl_absorb_inj s).1 heq
  exact hne (absorb_byte_inj.1 hstep)

/-! ### The checksum and the gate -/

/-- **The checksum is the exclusive or of four lanes**, the digits of the hash in base 65536. -/
theorem fold_lanes (h : UInt64) : ∃ a b c d : UInt16,
    h.toNat = a.toNat + 65536 * (b.toNat + 65536 * (c.toNat + 65536 * d.toNat)) ∧
    fold h = a ^^^ b ^^^ c ^^^ d := by
  refine ⟨h.toUInt16, (h >>> 16).toUInt16, (h >>> 32).toUInt16, (h >>> 48).toUInt16, ?_, rfl⟩
  have hlt := h.toNat_lt
  have h₀ : h.toUInt16.toNat = h.toNat % 65536 := UInt64.toNat_toUInt16 h
  have h₁ : (h >>> 16).toUInt16.toNat = h.toNat / 65536 % 65536 := by
    simp [Nat.shiftRight_eq_div_pow]
  have h₂ : (h >>> 32).toUInt16.toNat = h.toNat / 4294967296 % 65536 := by
    simp [Nat.shiftRight_eq_div_pow]
  have h₃ : (h >>> 48).toUInt16.toNat = h.toNat / 281474976710656 % 65536 := by
    simp [Nat.shiftRight_eq_div_pow]
  omega

open Host

/-- The bindings expect one signature of a function and the library was built for another, and still
the gate lets the library pass. -/
structure Escapes (m : Manifest) (t : SymbolTable) (f expected actual : String) : Prop where
  expects : (f, checksum expected) ∈ m.checksums
  answers : t.resolve (Symbol.name m.ns (.checksum f)) = some (checksum actual).toUInt32
  passes : ∃ l, (LazyLibrary.get { manifest := m, loader := .ok t }).1 = .ok l

variable {m : Manifest} {f expected actual : String}

/-- Only a signature with the same checksum passes for another. -/
theorem Escapes.checksum_eq {t : SymbolTable} (h : Escapes m t f expected actual) :
    checksum expected = checksum actual := by
  have fits : m.Fits t := Manifest.passes_iff_fits.1 h.passes
  obtain ⟨a, ha, hsum⟩ := fits.checksums _ h.expects
  rw [h.answers] at ha
  obtain rfl := Option.some.inj ha
  rw [UInt16.toUInt16_toUInt32] at hsum
  exact hsum.symm

/-- And such a one does, in a library that exports what is expected otherwise. -/
theorem escapes_of_checksum_eq (distinct : (m.checksums.map Prod.fst).Nodup)
    (expects : (f, checksum expected) ∈ m.checksums) (h : checksum expected = checksum actual) :
    Escapes m (.exporting m.ns m.version m.checksums) f expected actual where
  expects := expects
  answers := by
    rw [SymbolTable.exporting_eq, ← h]
    exact SymbolTable.resolve_withFunctions_checksum distinct expects _
  passes := Manifest.passes_iff_fits.2 (Manifest.fits_exporting distinct)

/-- **A change of one byte never hides behind the hash.**  Byte runs that go on alike have the same
hash if and only if they had it before, and runs that differ in one byte never have.  The checksum is
the exclusive or of the four lanes of the hash, and if a signature that differs in one byte from the
one expected passes the startup gate, then because two hashes have been folded into one checksum. -/
theorem one_byte_shows :
    (∀ p q s : Bytes, hash (p ++ s) = hash (q ++ s) ↔ hash p = hash q) ∧
    (∀ bs cs : Bytes, OneByteApart bs cs → hash bs ≠ hash cs) ∧
    (∀ signature : String, ∃ a b c d : UInt16,
      (hash (encodeText signature)).toNat =
        a.toNat + 65536 * (b.toNat + 65536 * (c.toNat + 65536 * d.toNat)) ∧
      checksum signature = a ^^^ b ^^^ c ^^^ d) ∧
    ∀ (m : Manifest) (t : SymbolTable) (f expected actual : String),
      OneByteApart (encodeText expected) (encodeText actual) → Escapes m t f expected actual →
      hash (encodeText expected) ≠ hash (encodeText actual) ∧
      fold (hash (encodeText expected)) = fold (hash (encodeText actual)) := by
  refine ⟨hash_append_inj, fun bs cs => hash_ne_of_apart, fun _ => fold_lanes _, ?_⟩
  intro m t f expected actual apart escapes
  exact ⟨hash_ne_of_apart apart, escapes.checksum_eq⟩

/-- A first argument that has lost its sign does pass the gate. -/
theorem one_byte_shows_folded :
    let expected := "div(i8,f32)->i8"
    let actual := "div(u8,f32)->i8"
    let bindings : Manifest := { ns := "m", checksums := [("div", checksum expected)] }
    let library := SymbolTable.exporting "m" contractVersion [("div", checksum expected)]
    OneByteApart (encodeText expected) (encodeText actual) ∧
    Escapes bindings library "div" expected actual ∧
    hash (encodeText expected) ≠ hash (encodeText actual) ∧
    fold (hash (encodeText expected)) = fold (hash (encodeText actual)) := by
  intro expected actual bindings library
  have apart : OneByteApart (encodeText expected) (encodeText actual) := by decide
  have escapes : Escapes bindings library "div" expected actual :=
    escapes_of_checksum_eq (by decide) (.head _) (by decide)
  exact ⟨apart, escapes, one_byte_shows.2.2.2 bindings library "div" expected actual apart escapes⟩

end CallBoundary.Signature
