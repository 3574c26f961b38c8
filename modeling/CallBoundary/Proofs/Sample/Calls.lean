import CallBoundary.Proofs.Host.Answers
import CallBoundary.Proofs.Wire.Canonical
import CallBoundary.Sample.Calls

/-!
# Calling the sample library from end to end

What a function of the sample library answers is told here without the boundary: `Request.answer`
says it of ordinary texts, numbers and maps.  Called across the boundary a function answers just
that (`call_answers`), as far as there are buffers for the arguments and for the answer; else the
caller gets an internal error.  Nothing that was handed out for the call is left, unless an argument
is too long to be lowered at all.
-/

namespace CallBoundary.Sample

open Host Native

/-! ### Requests -/

/-- The functions that return their argument. -/
inductive Echo where
  | activity | activities | state | network | bytes
deriving DecidableEq, Repr

namespace Echo

/-- The name of a function that returns its argument. -/
def name : Echo → String
  | activity => "echo_activity"
  | activities => "echo_activities"
  | state => "echo_state"
  | network => "echo_network"
  | bytes => "echo_bytes"

/-- The type of what it returns. -/
def type : Echo → WireType
  | activity => .named "Activity"
  | activities => .sequence (.named "Activity")
  | state => .named "PaymentState"
  | network => .named "Network"
  | bytes => .bytes

end Echo

/-- A call of a function of the sample library, with its arguments.  The keys of a map are all
different, and the map may be written in any order. -/
inductive Request where
  | echo (f : Echo) (v : Value) (typed : v.hasType schema f.type = true)
  | greet (name : String)
  | add (a b : BitVec 32)
  | lookup (entries : List (String × String)) (distinct : (entries.map (·.1)).Nodup) (key : String)
  | failHard (message : String)

/-- What is said of two numbers whose sum cannot be told. -/
def overflow (a b : Int) : String := s!"{a} + {b} overflows i32"

/-- A map of texts as a value. -/
def textMap (entries : List (String × String)) : Value :=
  .map (entries.map fun e => (.text e.1, .text e.2))

namespace Request

/-- The name of the function that is called. -/
def name : Request → String
  | echo f _ _ => f.name
  | greet _ => "greet"
  | add _ _ => "add"
  | lookup _ _ _ => "lookup"
  | failHard _ => "fail_hard"

/-- What it is called with. -/
def arguments : Request → List Value
  | echo _ v _ => [v]
  | greet name => [.text name]
  | add a b => [.scalar ⟨.i32, a⟩, .scalar ⟨.i32, b⟩]
  | lookup entries _ key => [textMap entries, .text key]
  | failHard message => [.text message]

/-- What the function by itself comes to. -/
def answer : Request → Except CallError Value
  | echo _ v _ => .ok v
  | greet name => .ok (.text ("Hello, " ++ name ++ "!"))
  | add a b =>
    let n := a.toInt + b.toInt
    if -0x80000000 ≤ n ∧ n ≤ 0x7fffffff then .ok (.scalar ⟨.i32, .ofInt 32 n⟩)
    else .error (.internal (.panic (overflow a.toInt b.toInt)))
  | lookup entries _ key =>
    match entries.lookup key with
    | some found => .ok (.text found)
    | none => .error (.domain (SampleError.notFound key).toValue)
  | failHard message =>
    .error (.internal (if message = "" then .panicWithoutMessage else .panic message))

end Request

/-! ### Arguments -/

/-- The types that the functions which return their argument are made of. -/
def echoTypes : List WireType :=
  [.named "Activity", .sequence (.named "Activity"), .named "PaymentState", .named "Network",
    .bytes, .text, .scalar .u64, .optional (.scalar .u64), .sequence .text, .bool]

theorem Echo.member {f : Echo} {v : Value} (typed : v.hasType schema f.type = true) :
    schema.Member f.type v := by
  refine ⟨typed, Schema.MapFree.keyed v ?_ typed⟩
  refine Schema.mapFree_of_closed echoTypes (by decide) (by simp [echoTypes]) ?_
  cases f <;> decide

theorem Echo.bare {f : Echo} {v : Value} (typed : v.hasType schema f.type = true) :
    v.bare = none := by
  cases v with
  | unit => cases f <;> cases typed
  | bool b => cases f <;> cases typed
  | scalar s => cases f <;> cases typed
  | _ => rfl

theorem member_text (s : String) : schema.Member .text (.text s) := ⟨rfl, rfl⟩

/-- The entries of a map of texts as values. -/
abbrev textEntries (entries : List (String × String)) : List (Value × Value) :=
  entries.map fun e => (.text e.1, .text e.2)

theorem textEntries_typed (entries : List (String × String)) :
    Value.entriesHaveType schema .text .text (textEntries entries) = true := by
  induction entries with
  | nil => rfl
  | cons e es ih => exact ih

theorem textEntries_keyed (entries : List (String × String)) :
    Value.entriesKeyed (textEntries entries) = true := by
  induction entries with
  | nil => rfl
  | cons e es ih =>
    rw [textEntries, List.map_cons, Value.entriesKeyed]
    exact ih

theorem lookup_textEntries (entries : List (String × String)) (key : String) :
    Value.lookup (.text key) (textEntries entries) = (entries.lookup key).map .text := by
  induction entries with
  | nil => rfl
  | cons e es ih =>
    obtain ⟨k, v⟩ := e
    by_cases hk : k = key
    · simp [Value.lookup, hk]
    · have hne : (key == k) = false := beq_eq_false_iff_ne.2 (Ne.symm hk)
      simp [Value.lookup, List.lookup_cons, hk, hne, ih]

theorem member_textMap {entries : List (String × String)}
    (distinct : (entries.map (·.1)).Nodup) :
    schema.Member (.map .text .text) (textMap entries) := by
  have hkeys : (Value.keys (textEntries entries)).Nodup := by
    have hmap : Value.keys (textEntries entries) = (entries.map (·.1)).map .text := by
      simp [Value.keys]
    rw [hmap]
    exact distinct.map fun _ _ => Value.text.inj
  refine ⟨textEntries_typed entries, ?_⟩
  rw [textMap, Value.keyed, textEntries_keyed, Bool.and_true]
  exact decide_eq_true hkeys

/-- A map of texts has what the list of its entries has. -/
theorem find_textMap (entries : List (String × String)) (key : String) :
    find (textMap entries).entries key =
      match entries.lookup key with
      | some found => .ok found
      | none => .error (.notFound key) := by
  have hlookup : Value.lookup (.text key) (textMap entries).entries =
      (entries.lookup key).map .text := lookup_textEntries entries key
  unfold find
  rw [hlookup]
  cases entries.lookup key <;> rfl

/-! ### Sums -/

/-- Whether a number can be told in 32 bits. -/
theorem toInt_ofInt_iff {n : Int} :
    (BitVec.ofInt 32 n).toInt = n ↔ -0x80000000 ≤ n ∧ n ≤ 0x7fffffff := by
  constructor
  · intro h
    rw [← h]
    exact ⟨BitVec.le_toInt _, Int.le_of_lt_add_one BitVec.toInt_lt⟩
  · rintro ⟨hlow, hhigh⟩
    rw [BitVec.toInt_ofInt]
    exact Int.bmod_eq_of_le (by omega) (by omega)

/-- A sum is found just when it can be told. -/
theorem sum_i32 (a b : BitVec 32) : sum .i32 a b =
    let n := a.toInt + b.toInt
    if -0x80000000 ≤ n ∧ n ≤ 0x7fffffff then .ok (.ofInt 32 n)
    else .error (overflow a.toInt b.toInt) := by
  have hsum : sum .i32 a b =
      if (BitVec.ofInt 32 (a.toInt + b.toInt)).toInt = a.toInt + b.toInt
      then .ok (.ofInt 32 (a.toInt + b.toInt))
      else .error (toString a.toInt ++ " + " ++ toString b.toInt ++ " overflows " ++ "i32") := rfl
  rw [hsum]
  simp only [toInt_ofInt_iff, overflow, String.append_assoc]
  rfl

theorem length_toString_le {n : Int} (h : n.natAbs < 10 ^ 10) : (toString n).length ≤ 11 := by
  cases n with
  | ofNat m =>
    have hm : m.repr.length ≤ 10 := (Nat.length_repr_le_iff (by decide)).2 h
    exact Nat.le_succ_of_le hm
  | negSucc m =>
    have hm : m.succ.repr.length ≤ 10 := (Nat.length_repr_le_iff (by decide)).2 h
    show ("-" ++ m.succ.repr).length ≤ 11
    rw [String.length_append]
    have hminus : "-".length = 1 := rfl
    omega

/-- There is room for what is said of a sum that cannot be told. -/
theorem messageError_overflow (a b : BitVec 32) :
    messageError (overflow a.toInt b.toInt) = .panic (overflow a.toInt b.toInt) := by
  have hbound : ∀ w : BitVec 32, (toString w.toInt).length ≤ 11 := by
    intro w
    have hlow : -0x80000000 ≤ w.toInt := BitVec.le_toInt w
    have hhigh : w.toInt < 0x80000000 := BitVec.toInt_lt
    exact length_toString_le (by omega)
  have hlen : (overflow a.toInt b.toInt).length =
      (toString a.toInt).length + 3 + (toString b.toInt).length + 14 := by
    simp only [overflow, String.length_append]
    rfl
  have hshort := length_encodeText_le (overflow a.toInt b.toInt)
  have ha := hbound a
  have hb := hbound b
  unfold messageError maxLength
  rw [if_neg]
  rintro (hempty | hlong)
  · rw [hempty] at hlen
    have hzero : "".length = 0 := rfl
    omega
  · omega

/-! ### One call -/

/-- The native side takes a text that was lowered for it. -/
theorem liftText_ok {s : String} {b : Buffer} {h₀ h₁ : Heap} (name : String)
    (p : h₀.Placed (.text s) b h₁) (h : Heap) :
    ∃ h', liftText name b h = .ok s h' ∧ h.TookBack b h' := by
  obtain ⟨h', htake, took⟩ := liftArgument_ok name p (member_text s) h
  refine ⟨h', ?_, took⟩
  show (liftArgument schema name .text b >>= fun v => pure v.asText) h = _
  rw [bind_of_ok htake]
  rfl

namespace Request

/-- What was asked for is answered, and what was handed out for it is taken back. -/
def Served (r : Request) (h : Heap) : Prop :=
  ∃ got h', callOn r.name r.arguments h = (some got, h') ∧ Arrives r.answer got ∧ h'.live = h.live

/-- A call comes to what its body comes to on the lowered arguments. -/
theorem served_of_answers {r : Request} {ls : List Lowered} {d : Declaration}
    {body : Body Lowered} {h h₁ : Heap} {live : List Nat}
    (hargs : lowerArguments nativeEntries.allocator r.arguments h = .ok ls h₁)
    (known : declaration? r.name = some d) (entry : entryOf d.name ls = some body)
    (same : live = h.live)
    (answers : ∃ got, Answers schema d.result d.error live (body h₁) got ∧
      Arrives r.answer got) : r.Served h := by
  obtain ⟨got, answers, arrives⟩ := answers
  obtain ⟨h', hinvoke, hlive⟩ := answers.invoked
  have hmap : ∀ m : StateM Heap (Except CallError Value), m h₁ = (got, h') →
      (some <$> m) h₁ = (some got, h') := by
    intro m hm
    show (some (m h₁).1, (m h₁).2) = _
    rw [hm]
  refine ⟨got, h', ?_, arrives, hlive.trans same⟩
  unfold callOn
  rw [stateM_bind, attempt_ok hargs]
  simp only [known, Option.bind_some, call?, entry, Option.map_some]
  exact hmap _ hinvoke

section Functions

variable {h h₁ : Heap} {ls : List Lowered}

theorem served_echo {f : Echo} {v : Value} {typed : v.hasType schema f.type = true}
    (hargs : lowerArguments nativeEntries.allocator [v] h = .ok ls h₁)
    (lowers : h.Lowers [v] ls h₁) : (echo f v typed).Served h := by
  obtain ⟨b, rfl, p⟩ := lowers.of_single (Echo.bare typed)
  obtain ⟨argument, d, known, entry, hresult⟩ : ∃ argument d, declaration? f.name = some d ∧
      entryOf d.name [.buffer b] = some (echoEntry argument f.type b) ∧ d.result = f.type := by
    cases f <;> exact ⟨_, _, rfl, rfl, rfl⟩
  have m := Echo.member typed
  obtain ⟨h₂, htake, took⟩ := liftArgument_ok argument p m h₁
  have hbody : echoEntry argument f.type b h₁ = _ := bind_of_ok htake _
  refine served_of_answers hargs known entry (took.live_eq p.live_eq) ?_
  rw [hbody]
  exact lowerReturn_answers (hresult ▸ m) h₂

theorem served_greet {name : String}
    (hargs : lowerArguments nativeEntries.allocator [.text name] h = .ok ls h₁)
    (lowers : h.Lowers [.text name] ls h₁) : (greet name).Served h := by
  obtain ⟨b, rfl, p⟩ := lowers.of_single rfl
  obtain ⟨h₂, htake, took⟩ := liftText_ok "name" p h₁
  have hbody : greetEntry b h₁ = _ := bind_of_ok htake _
  refine served_of_answers (r := greet name) hargs rfl rfl (took.live_eq p.live_eq) ?_
  rw [hbody]
  exact lowerReturn_answers (member_text (greeting name)) h₂

theorem served_add {a b : BitVec 32}
    (hargs : lowerArguments nativeEntries.allocator (add a b).arguments h = .ok ls h₁)
    (lowers : h.Lowers (add a b).arguments ls h₁) : (add a b).Served h := by
  obtain ⟨ms, rfl, second⟩ := lowers.of_bare rfl
  obtain ⟨ns, rfl, rest⟩ := second.of_bare rfl
  cases rest
  refine served_of_answers (r := add a b) hargs rfl rfl rfl ?_
  have hsum := sum_i32 a b
  by_cases hfits : -0x80000000 ≤ a.toInt + b.toInt ∧ a.toInt + b.toInt ≤ 0x7fffffff
  · rw [if_pos hfits] at hsum
    have hbody : addEntry .i32 a b h =
        .ok (.scalar ⟨.i32, .ofInt 32 (a.toInt + b.toInt)⟩) h := by
      unfold addEntry
      rw [hsum]
      rfl
    rw [hbody, answer, if_pos hfits]
    have room : (Value.scalar ⟨.i32, .ofInt 32 (a.toInt + b.toInt)⟩).Lowerable :=
      Value.lowerable_of_bare rfl
    exact ⟨_, .bare nofun rfl rfl, arrives_self _ room⟩
  · rw [if_neg hfits] at hsum
    have hbody : addEntry .i32 a b h = .error (.internal (overflow a.toInt b.toInt)) h := by
      unfold addEntry
      rw [hsum]
      rfl
    rw [hbody, answer, if_neg hfits, ← messageError_overflow]
    exact ⟨_, .broken (.inr ⟨_, rfl, rfl⟩) rfl, arrives_self _ trivial⟩

theorem served_lookup {entries : List (String × String)} {key : String}
    {distinct : (entries.map (·.1)).Nodup}
    (hargs : lowerArguments nativeEntries.allocator [textMap entries, .text key] h = .ok ls h₁)
    (lowers : h.Lowers [textMap entries, .text key] ls h₁) :
    (lookup entries distinct key).Served h := by
  obtain ⟨b, ms, h₀, rfl, p, rest⟩ := lowers.of_placed rfl
  obtain ⟨k, rfl, q⟩ := rest.of_single rfl
  obtain ⟨h₂, htake, took⟩ := liftArgument_ok "entries" p (member_textMap distinct) h₁
  obtain ⟨h₃, htakeKey, tookKey⟩ := liftText_ok "key" q h₂
  -- the block of the key was handed out after that of the map, which is taken back first
  have hlive : h₂.live = k.address?.toList ++ h.live := by
    have hother : h₀.next ≠ h.next := by
      rw [p.next]
      exact Nat.succ_ne_self _
    rw [took.live, p.address, q.live, p.live, q.address]
    show (h₀.next :: h.next :: h.live).erase h.next = _
    rw [List.erase_cons_tail (by simp [hother]), List.erase_cons_head]
    rfl
  refine served_of_answers (r := lookup entries distinct key) hargs rfl rfl
    (tookKey.live_eq hlive) ?_
  unfold lookupEntry
  rw [bind_of_ok (liftM_attempt_of_ok htake), bind_of_ok (liftM_attempt_of_ok htakeKey),
    bind_of_ok (ofExcept_of_ok rfl h₃), bind_of_ok (ofExcept_of_ok rfl h₃), find_textMap, answer]
  cases entries.lookup key with
  | some found => exact lowerReturn_answers (member_text found) h₃
  | none =>
    have m : schema.Member SampleError.type (SampleError.notFound key).toValue := ⟨rfl, rfl⟩
    exact throwDomain_answers m rfl h₃

theorem served_failHard {message : String}
    (hargs : lowerArguments nativeEntries.allocator [.text message] h = .ok ls h₁)
    (lowers : h.Lowers [.text message] ls h₁) (room : (Value.text message).Lowerable) :
    (failHard message).Served h := by
  obtain ⟨b, rfl, p⟩ := lowers.of_single rfl
  obtain ⟨h₂, htake, took⟩ := liftText_ok "message" p h₁
  have hbody : failHardEntry b h₁ = .error (.panic (some message)) h₂ := bind_of_ok htake _
  have short : ¬ maxLength < (encodeText message).length := Nat.not_lt.2 room.2
  have hmessage : messageError message =
      if message = "" then .panicWithoutMessage else .panic message := by
    unfold messageError
    simp only [short, or_false]
  refine served_of_answers (r := failHard message) hargs rfl rfl (took.live_eq p.live_eq) ?_
  rw [hbody, answer, ← hmessage]
  exact ⟨_, .broken (.inl rfl) rfl, arrives_self _ trivial⟩

end Functions

/-- **A request is served** if there are buffers for its arguments. -/
theorem served (r : Request) (room : ∀ v ∈ r.arguments, v.Lowerable) (h : Heap) : r.Served h := by
  obtain ⟨ls, h₁, hargs, lowers⟩ := lowerArguments_ok room h
  cases r with
  | echo f v typed => exact served_echo hargs lowers
  | greet name => exact served_greet hargs lowers
  | add a b => exact served_add hargs lowers
  | lookup entries distinct key => exact served_lookup hargs lowers
  | failHard message => exact served_failHard hargs lowers (room _ (.head _))

/-! ### All calls -/

/-- There are buffers for the arguments and for the answer. -/
structure Fits (r : Request) : Prop where
  arguments : ∀ v ∈ r.arguments, v.Lowerable
  answer : Carried r.answer

/-- What a map of texts holds is no longer than a text in it may be. -/
theorem lowerable_of_lookup {entries : List (String × String)} {key found : String}
    (room : (textMap entries).Lowerable) (hfound : entries.lookup key = some found) :
    (Value.text found).Lowerable := by
  refine ⟨rfl, ?_⟩
  have hfit : Value.entriesFit (textEntries entries) = true := by
    have hroom : (decide ((textEntries entries).length ≤ maxLength) &&
        Value.entriesFit (textEntries entries)) = true := room.1
    exact (Bool.and_eq_true_iff.1 hroom).2
  clear room
  induction entries with
  | nil => cases hfound
  | cons e es ih =>
    obtain ⟨k, v⟩ := e
    rw [textEntries, List.map_cons, Value.entriesFit, Bool.and_eq_true, Bool.and_eq_true] at hfit
    by_cases hk : k = key
    · have hhere : v = found := by simpa [List.lookup_cons, hk] using hfound
      have hshort : Value.fits (.text v) = true := hfit.1.2
      rw [Value.fits, hhere] at hshort
      exact of_decide_eq_true hshort
    · have hne : (key == k) = false := beq_eq_false_iff_ne.2 (Ne.symm hk)
      have hthere : es.lookup key = some found := by simpa [List.lookup_cons, hne] using hfound
      exact ih hthere hfit.2

/-- There are buffers for all of it if the buffers of the arguments could be eight bytes larger. -/
theorem fits_of_room {r : Request}
    (room : ∀ v ∈ r.arguments, v.Lowerable ∧ v.outerLength + 8 ≤ maxLength) : r.Fits := by
  refine ⟨fun v hv => (room v hv).1, ?_⟩
  cases r with
  | echo f v typed => exact (room v (.head _)).1
  | greet name =>
    have hname : (encodeText name).length + 8 ≤ maxLength := (room _ (.head _)).2
    refine ⟨rfl, ?_⟩
    show (encodeText ("Hello, " ++ name ++ "!")).length ≤ maxLength
    rw [length_encodeText_append, length_encodeText_append]
    have hhello : (encodeText "Hello, ").length = 7 := by decide
    have hmark : (encodeText "!").length = 1 := by decide
    omega
  | add a b =>
    unfold answer
    dsimp only
    split
    · exact Value.lowerable_of_bare rfl
    · trivial
  | lookup entries distinct key =>
    have hkey : (encodeText key).length + 8 ≤ maxLength := (room _ (.tail _ (.head _))).2
    rw [answer]
    cases hfound : entries.lookup key with
    | some found => exact lowerable_of_lookup (room _ (.head _)).1 hfound
    | none =>
      have hshort : Value.fits (.text key) = true := decide_eq_true (Nat.le_of_add_right_le hkey)
      constructor
      · show (Value.fits (.text key) && true) = true
        rw [hshort]
        rfl
      · show 4 + (4 + (encodeText key).length + 0) ≤ maxLength
        omega
  | failHard message => trivial

end Request

/-- **The sample library from end to end.**  Called across the boundary on any arguments, a function
answers what it answers by itself, if there are buffers for the arguments and for the answer, and an
internal error if there are not: no buffer takes more than `maxLength` bytes, 2 ^ 31 - 1.  Once the
arguments are lowered, all that was handed out for the call is taken back, whatever it comes to.  If
there is no buffer for one of them, those of the arguments before it stay live, and so does the message
that it is too long, which the host does not give back. -/
theorem call_answers (r : Request) (h : Heap) :
    let (got, h') := callOn r.name r.arguments h
    (r.Fits → got = some r.answer) ∧
    (¬ r.Fits → ∃ e, got = some (.error (.internal e))) ∧
    ((∀ v ∈ r.arguments, v.Lowerable) → h'.live = h.live) ∧
    ((¬ ∀ v ∈ r.arguments, v.Lowerable) → h'.live = stranded h.next r.arguments ++ h.live) := by
  by_cases room : ∀ v ∈ r.arguments, v.Lowerable
  · obtain ⟨got, h', hcall, arrives, hlive⟩ := r.served room h
    rw [hcall]
    refine ⟨fun fits => congrArg some (arrives.whole fits.answer), fun lost => ?_, fun _ => hlive,
      fun long => absurd room long⟩
    obtain ⟨e, hgot⟩ := arrives.lost fun carried => lost ⟨room, carried⟩
    exact ⟨e, congrArg some hgot⟩
  · obtain ⟨e, h', hargs, hlive⟩ := lowerArguments_error room h
    have hcall : callOn r.name r.arguments h = (some (.error (.internal (.wire e))), h') := by
      unfold callOn
      rw [stateM_bind, attempt_error hargs]
      rfl
    rw [hcall]
    exact ⟨fun fits => absurd fits.arguments room, fun _ => ⟨_, rfl⟩, fun all => absurd all room,
      fun _ => hlive⟩

/-- A key that a map of two entries does not have is reported, and nothing is left.  For a name of
2 ^ 31 letters there is no greeting, and a message is left. -/
theorem call_answers_missing :
    (let r : Request := .lookup [("alice", "lnbc1"), ("bob", "lnbc2")] (by decide) "carol"
      let (got, h') := callOn r.name r.arguments {}
      got = some (.error (.domain (SampleError.notFound "carol").toValue)) ∧ h'.live = []) ∧
    let r : Request := .greet (String.ofList (List.replicate (maxLength + 1) 'a'))
    (callOn r.name r.arguments {}).2.live = [1] := by
  constructor
  · intro r
    have fits : r.Fits := Request.fits_of_room (by decide)
    have hmain := call_answers r {}
    rcases hcall : callOn r.name r.arguments {} with ⟨got, h'⟩
    rw [hcall] at hmain
    exact ⟨hmain.1 fits, hmain.2.2.1 fits.arguments⟩
  · have left : ∀ name : String, (encodeText name).length = maxLength + 1 →
        (callOn (Request.greet name).name (Request.greet name).arguments {}).2.live = [1] := by
      intro name hlen
      have long : ¬ (Value.text name).Lowerable := fun room => by
        have hshort : (encodeText name).length ≤ maxLength := room.2
        omega
      have htold : told 1 (maxLength + 1) = [1] := by decide +kernel
      obtain ⟨-, -, -, hlive⟩ := call_answers (.greet name) {}
      refine (hlive fun room => long (room _ (.head _))).trans ?_
      rw [Request.arguments, stranded, if_neg long]
      show told 1 (encodeText name).length ++ [] = [1]
      rw [hlen, htold, List.append_nil]
    refine left _ ?_
    rw [encodeText_ofList, List.length_flatMap, List.map_replicate, List.sum_replicate_nat]
    exact Nat.mul_one _

end CallBoundary.Sample
