import CallBoundary.Proofs.Buffer.Ownership

/-!
# Texts and bytes, whole and inside

A text or byte run that is all there is in a buffer is its bare bytes, and inside anything else it
stands behind its length (`framed`).  The two forms go through different readers and writers, and
they agree: from a buffer the same is lifted as is read from its bytes behind their length
(`Schema.LiftsAsRead`), and what is lowered is what is written, without the length
(`Value.LowersAsWritten`).
-/

namespace CallBoundary

/-- Bytes behind their length. -/
def framed (bs : Bytes) : Bytes := bigEndian 4 bs.length ++ bs

theorem drop_framed (bs : Bytes) : (framed bs).drop 4 = bs :=
  List.drop_left' (bigEndian_length 4 bs.length)

namespace Schema

variable (S : Schema) {t : WireType} (raw : t = .text ∨ t = .bytes)

/-! ### Reading -/

section Read

variable {bs : Bytes}

theorem reads_framed (short : bs.length ≤ maxLength) : Reader.bytes.Reads (framed bs) bs :=
  Reader.reads_bytes short

/-- Bytes behind their length are passed over whether or not they are text. -/
theorem attempt_text_framed (short : bs.length ≤ maxLength) (p : Nat) (rest : Bytes) :
    attempt Reader.text ⟨p, framed bs ++ rest⟩ =
      (Reader.ofText bs, ⟨p + (framed bs).length, rest⟩) := by
  unfold Reader.text
  rw [attempt_bind_of_ok (reads_framed short p rest)]
  cases Reader.ofText bs with
  | ok m => rfl
  | error e => rfl

include raw

/-- Bytes behind their length are read as the whole of a buffer is. -/
theorem attempt_read_framed (short : bs.length ≤ maxLength) (p : Nat) (rest : Bytes) :
    attempt (S.read t) ⟨p, framed bs ++ rest⟩ =
      (S.readOuter t bs, ⟨p + (framed bs).length, rest⟩) := by
  rcases raw with rfl | rfl
  · rw [read_text, attempt_map, attempt_text_framed short]
    rfl
  · rw [read_bytes, attempt_map, attempt_ok (reads_framed short p rest)]
    rfl

theorem encode_of_readOuter {v : Value} (h : S.readOuter t bs = .ok v) :
    v.hasType S t = true ∧ v.encode = framed bs := by
  cases readOuter_ok.1 h with
  | text m => exact ⟨rfl, rfl⟩
  | bytes bs => exact ⟨rfl, rfl⟩
  | other coded =>
    rcases raw with rfl | rfl
    · exact absurd rfl coded.1
    · exact absurd rfl coded.2

/-- Nothing can be wrong with bytes, and with a text only that it is none. -/
theorem fault_of_readOuter {e : WireError} (h : S.readOuter t bs = .error e) :
    t = .text ∧ ∃ f, decodeText bs = .error f ∧ e = .badText f := by
  rcases raw with rfl | rfl
  · refine ⟨rfl, ?_⟩
    rw [readOuter, Reader.ofText] at h
    cases hd : decodeText bs with
    | ok m =>
      rw [hd] at h
      cases h
    | error f =>
      rw [hd] at h
      cases h
      exact ⟨f, rfl, rfl⟩
  · cases h

end Read

/-! ### Lifting -/

/-- What is lifted from a buffer is what is read from its bytes behind their length, wherever these
stand. -/
structure LiftsAsRead (A : Allocator σ) (s : σ) (t : WireType) (b : Buffer) : Prop where
  same : ∀ p rest, outcome (S.lift A t b) s =
    (outcome (A.free b) s).bind fun _ => outcome (S.read t) ⟨p, framed b.contents ++ rest⟩
  /-- The bytes are passed over, whatever they are. -/
  passed : ∀ p rest, (attempt (S.read t) ⟨p, framed b.contents ++ rest⟩).2 =
    ⟨p + (framed b.contents).length, rest⟩
  value : ∀ p rest v, outcome (S.read t) ⟨p, framed b.contents ++ rest⟩ = .ok v →
    v.hasType S t = true ∧ v.encode = framed b.contents
  /-- Bytes are never wrong, and a text only where its bytes are no text. -/
  fault : ∀ p rest e, outcome (S.read t) ⟨p, framed b.contents ++ rest⟩ = .error e →
    t = .text ∧ ∃ f, decodeText b.contents = .error f ∧ e = .badText f

section Lift

variable {A : Allocator σ} {s : σ} {b : Buffer}

include raw

/-- The bytes of a buffer are looked at when it is gone. -/
theorem lift_raw (layout : b.check = .ok ()) : outcome (S.lift A t b) s =
    (outcome (A.free b) s).bind fun _ => S.readOuter t b.contents := by
  have hrefused : ∀ e, S.lifted t b.contents (.error e) = .error e := by
    rcases raw with rfl | rfl
    · exact fun _ => rfl
    · exact fun _ => rfl
  rw [lift_eq]
  refine (outcome_bind_of_ok (ofExcept_of_ok layout s) _).trans ?_
  cases hf : A.free b s with
  | ok u s' =>
    refine (outcome_bind_of_ok (liftM_attempt_of_ok hf) _).trans ?_
    rw [outcome, attempt_ofExcept, lifted_of_ok, outcome, attempt_ok hf]
    rfl
  | error e s' =>
    have hfreed : (liftM (attempt (A.free b)) : EStateM WireError σ _) s = .ok (.error e) s' := by
      rw [liftM_attempt, attempt_error hf]
    refine (outcome_bind_of_ok hfreed _).trans ?_
    rw [outcome, attempt_ofExcept, hrefused, outcome, attempt_error hf]
    rfl

theorem lifts_as_read (layout : b.check = .ok ()) (short : b.length ≤ maxLength) :
    S.LiftsAsRead A s t b := by
  have hread := S.attempt_read_framed raw (b.length_contents layout ▸ short)
  have hout : ∀ p rest, outcome (S.read t) ⟨p, framed b.contents ++ rest⟩ =
      S.readOuter t b.contents := fun p rest => congrArg Prod.fst (hread p rest)
  constructor
  · intro p rest
    rw [hout]
    exact S.lift_raw raw layout
  · intro p rest
    rw [hread]
  · intro p rest v hv
    exact S.encode_of_readOuter raw (hout p rest ▸ hv)
  · intro p rest e he
    exact S.fault_of_readOuter raw (hout p rest ▸ he)

end Lift

end Schema

/-! ### Lowering -/

namespace Value

/-- What is lowered is what is written, without its length. -/
structure LowersAsWritten (A : Allocator σ) (s : σ) (v : Value) : Prop where
  /-- The buffer holds the encoding without its first four bytes, and these are the length. -/
  holds : ∀ b s', v.lower A s = .ok b s' → b.check = .ok () ∧ b.contents = v.encode.drop 4 ∧
    v.encode = framed b.contents
  /-- There is such a buffer as soon as the allocator has one with room for that. -/
  lowers : ∀ b s', A.alloc (v.encode.drop 4).length s = .ok b s' → b.check = .ok () →
    (v.encode.drop 4).length ≤ b.length → ∃ b', v.lower A s = .ok b' s'
  /-- Inside anything else the encoding is written with the length. -/
  written : ∀ r r', v.write r = .ok () r' → r' = r.push v.encode
  writes : (v.encode.drop 4).length ≤ maxLength → ∀ r, v.encode.length ≤ r.available →
    v.write r = .ok () (r.push v.encode)

section Lower

variable {v : Value} (raw : (∃ m, v = .text m) ∨ ∃ bs, v = .bytes bs)

include raw

theorem encode_raw : v.encode = framed v.encodeOuter := by
  rcases raw with ⟨m, rfl⟩ | ⟨bs, rfl⟩
  · rfl
  · rfl

theorem fitsOuter_raw : v.fitsOuter = true := by
  rcases raw with ⟨m, rfl⟩ | ⟨bs, rfl⟩
  · rfl
  · rfl

theorem fits_raw (short : v.outerLength ≤ maxLength) : v.fits = true := by
  rcases raw with ⟨m, rfl⟩ | ⟨bs, rfl⟩
  · exact decide_eq_true short
  · exact decide_eq_true short

theorem lowers_as_written (A : Allocator σ) (s : σ) : v.LowersAsWritten A s := by
  have hencode := encode_raw raw
  have hdrop : v.encode.drop 4 = v.encodeOuter := by rw [hencode, drop_framed]
  constructor
  · intro b s' hl
    obtain ⟨b₀, -, layout, -, room, rfl⟩ := lower_ok hl
    rw [← length_encodeOuter] at room
    obtain ⟨hcheck, -, hcontents, -⟩ := Buffer.overwrite_sound layout room
    rw [hcontents]
    exact ⟨hcheck, hdrop.symm, hencode⟩
  · intro b s' asked layout room
    rw [hdrop, length_encodeOuter] at asked room
    rw [← b.length_contents layout] at room
    exact ⟨_, lower_of_room asked layout (fitsOuter_raw raw) room⟩
  · exact fun r r' hw => (v.writes_encode r r' hw).2
  · intro short r room
    rw [hdrop, length_encodeOuter] at short
    rw [length_encode] at room
    exact write_eq v (fits_raw raw short) room

end Lower

/-- The values of the two types are texts and bytes. -/
theorem raw_of_hasType (S : Schema) {t : WireType} (raw : t = .text ∨ t = .bytes) {v : Value}
    (typed : v.hasType S t = true) : (∃ m, v = .text m) ∨ ∃ bs, v = .bytes bs := by
  rcases raw with rfl | rfl
  · cases v <;> simp only [hasType, Bool.false_eq_true] at typed
    exact .inl ⟨_, rfl⟩
  · cases v <;> simp only [hasType, Bool.false_eq_true] at typed
    exact .inr ⟨_, rfl⟩

end Value

/-- **Texts and bytes are the same whole and inside.**  From a buffer is lifted what is read from its
bytes behind their length, wherever these stand; and to a buffer is lowered what is written inside
anything else, without the length. -/
theorem whole_and_inside (S : Schema) {t : WireType} (raw : t = .text ∨ t = .bytes)
    (A : Allocator σ) (s : σ) :
    (∀ b : Buffer, b.check = .ok () → b.length ≤ maxLength → S.LiftsAsRead A s t b) ∧
    ∀ v : Value, v.hasType S t = true → v.LowersAsWritten A s :=
  ⟨fun _ => S.lifts_as_read raw,
    fun _ typed => Value.lowers_as_written (Value.raw_of_hasType S raw typed) A s⟩

/-- A byte that is no text is none in a buffer and none behind its length, and it is lifted as a byte;
and a text of one letter is lowered as the letter. -/
theorem whole_and_inside_malformed :
    let S := Sample.schema
    let A := Native.allocator
    let b : Buffer := .ofBlock ⟨7, [0xff], 0⟩
    (∃ f, outcome (S.lift A .text b) {} = .error (.badText f) ∧
      outcome (S.read .text) ⟨3, framed [0xff] ++ [7]⟩ = .error (.badText f)) ∧
    outcome (S.lift A .bytes b) {} = .ok (.bytes [0xff]) ∧
    ∃ b' h', (Value.text "a").lower A {} = .ok b' h' ∧ b'.contents = [0x61] := by
  intro S A b
  have layout : b.check = .ok () := rfl
  have short : b.length ≤ maxLength := by decide
  obtain ⟨f, hf⟩ : ∃ f, decodeText [0xff] = .error f := by
    unfold decodeText
    rw [dif_neg (by decide)]
    exact ⟨_, rfl⟩
  refine ⟨⟨f, ?_⟩, ?_, ?_⟩
  · have htext := (whole_and_inside S (.inl rfl) A {}).1 b layout short
    have hread : outcome (S.read .text) ⟨3, framed [0xff] ++ [7]⟩ = .error (.badText f) := by
      have hframed : ([0xff] : Bytes).length ≤ maxLength := short
      rw [outcome, S.attempt_read_framed (.inl rfl) hframed, Schema.readOuter, Reader.ofText, hf]
      rfl
    exact ⟨(htext.same 3 [7]).trans hread, hread⟩
  · have hbytes := (whole_and_inside S (.inr rfl) A {}).1 b layout short
    exact (hbytes.same 0 []).trans (congrArg Prod.fst (S.attempt_read_framed (.inr rfl) short 0 []))
  · have ha := (whole_and_inside S (.inl rfl) A {}).2 (.text "a") rfl
    obtain ⟨b', hb'⟩ := ha.lowers (.ofBlock ⟨1, [], 1⟩) _ rfl rfl (by decide)
    obtain ⟨-, hcontents, -⟩ := ha.holds b' _ hb'
    exact ⟨b', _, hb', hcontents⟩

end CallBoundary
