import CallBoundary.Proofs.Host.Handles
import CallBoundary.Proofs.Host.Relay
import CallBoundary.Proofs.Wire.Canonical
import CallBoundary.Sample.Calls

/-!
# What a logger is sent

`emitLogs` crosses the boundary twice for every message: the native side calls the logger, and the
logger's reply comes back in a status.  One message is one step (`deliver_heed`), and a step that
hears of no acceptance is the last (`heed_failed`); so the messages go out in order, up to the first
that is not accepted (`deliver_delivered`).  Then the handle is released, however the sending ended
(`emitLogs_releases`), and the host gets the number of messages or what the logger said to the last
one (`emitLogs_delivers`).
-/

namespace CallBoundary

/-! ### Reading messages -/

namespace Schema

variable {S : Schema}

/-- A sequence of texts is read as one. -/
theorem texts_of_readMany {n : Nat} {c c' : Cursor} {vs : List Value}
    (h : S.readMany .text n c = .ok vs c') : ∃ ms : List String, vs = ms.map .text ∧
      ms.length = n ∧ ∀ m ∈ ms, (encodeText m).length ≤ maxLength := by
  induction n generalizing c c' vs with
  | zero =>
    rw [readMany_zero] at h
    obtain ⟨rfl, -⟩ := pure_ok h
    exact ⟨[], rfl, rfl, nofun⟩
  | succ n ih =>
    rw [readMany_succ, read_text] at h
    obtain ⟨v, c₁, hv, hrest⟩ := bind_ok h
    obtain ⟨ws, c₂, hws, hret⟩ := bind_ok hrest
    obtain ⟨rfl, -⟩ := pure_ok hret
    obtain ⟨m, c₃, hm, hret⟩ := bind_ok hv
    obtain ⟨rfl, -⟩ := pure_ok hret
    obtain ⟨ms, rfl, hlen, hshort⟩ := ih hws
    refine ⟨m :: ms, rfl, congrArg (· + 1) hlen, ?_⟩
    intro m' hm'
    rcases List.mem_cons.1 hm' with rfl | hm'
    · exact (Reader.spans_text hm).2
    · exact hshort m' hm'

/-- A buffer that stands for texts holds no more and no longer ones than can be counted. -/
theorem texts_of_contents {b : Buffer} {v : Value} (h : S.contents (.sequence .text) b = .ok v) :
    ∃ ms : List String, v = .sequence (ms.map .text) ∧ ms.length ≤ maxLength ∧
      ∀ m ∈ ms, (encodeText m).length ≤ maxLength := by
  unfold contents at h
  split at h
  · have bare : WireType.sequence .text ≠ .text ∧ WireType.sequence .text ≠ .bytes := ⟨nofun, nofun⟩
    rw [S.readOuter_of_bare bare] at h
    obtain ⟨c, hread, -⟩ := Reader.all_ok.1 h
    rw [read_sequence] at hread
    obtain ⟨n, c₁, hn, hrest⟩ := bind_ok hread
    obtain ⟨vs, c₂, hvs, hret⟩ := bind_ok hrest
    obtain ⟨rfl, -⟩ := pure_ok hret
    obtain ⟨ms, rfl, hlen, hshort⟩ := texts_of_readMany hvs
    exact ⟨ms, rfl, hlen ▸ (Reader.spans_length hn).2, hshort⟩
  · cases h

end Schema

namespace Sample

open Native

/-! ### How loggers reply -/

/-- The reply of the logger of a handle to a message, given the messages before it.  Without a
logger the call breaks down. -/
def LogWorld.replyTo (w : LogWorld) (h : Handle) (heard : List String) (m : String) : LogReply :=
  match w.loggers.get h with
  | .ok logger => logger.reply heard m
  | .error _ => .panic none

/-- The calls that a logger notices, which it does if it is there. -/
def LogWorld.noticed (w : LogWorld) (h : Handle) (calls : List LogEvent) : List LogEvent :=
  match w.loggers.get h with
  | .ok _ => calls
  | .error _ => []

/-- Whether there is a buffer for what a reply says: it would take no more than `maxLength` bytes. -/
def LogReply.Sendable : LogReply → Prop
  | reject reason => (LogRejection.toValue ⟨reason⟩).Lowerable
  | panic text => (Value.text (text.getD "callback panicked")).Lowerable
  | _ => True

/-- Of some more messages a logger accepts `n`, and the next, if there is one, it does not.  It
replies as it does to what it has heard. -/
structure Heeded (reply : List String → String → LogReply) (heard ms : List String) (n : Nat) :
    Prop where
  le : n ≤ ms.length
  accepts : ∀ i m, i < n → ms[i]? = some m → (reply (heard ++ ms.take i) m).accepts = true
  refuses : ∀ m, ms[n]? = some m → (reply (heard ++ ms.take n) m).accepts = false

/-- The reply to the message after the first `n`, if there is one. -/
def refusal (reply : List String → String → LogReply) (heard ms : List String) (n : Nat) :
    Option LogReply :=
  ms[n]?.map (reply (heard ++ ms.take n))

/-- The calls for the first `n` messages, which are accepted, and for the next, which is not. -/
def logCalls (h : Handle) (ms : List String) (n : Nat) : List LogEvent :=
  (ms.take n).map (.called h · true) ++ ms[n]?.toList.map (.called h · false)

section Heeded

variable {reply : List String → String → LogReply} {heard ms : List String} {m : String} {n : Nat}

theorem heeded_nil : Heeded reply heard [] 0 := ⟨Nat.le_refl 0, nofun, nofun⟩

theorem heeded_here (no : (reply heard m).accepts = false) : Heeded reply heard (m :: ms) 0 := by
  refine ⟨Nat.zero_le _, nofun, ?_⟩
  rintro _ ⟨⟩
  rw [List.take_zero, List.append_nil]
  exact no

theorem heeded_next (yes : (reply heard m).accepts = true)
    (rest : Heeded reply (heard ++ [m]) ms n) : Heeded reply heard (m :: ms) (n + 1) := by
  refine ⟨Nat.succ_le_succ rest.le, ?_, ?_⟩
  · intro i m' hi hm'
    cases i with
    | zero =>
      cases hm'
      rw [List.take_zero, List.append_nil]
      exact yes
    | succ i =>
      have hrest := rest.accepts i m' (Nat.lt_of_succ_lt_succ hi) hm'
      rwa [List.append_assoc] at hrest
  · intro m' hm'
    have hrest := rest.refuses m' hm'
    rwa [List.append_assoc] at hrest

theorem refusal_here : refusal reply heard (m :: ms) 0 = some (reply heard m) := by
  show some (reply (heard ++ []) m) = _
  rw [List.append_nil]

theorem refusal_next (n : Nat) :
    refusal reply heard (m :: ms) (n + 1) = refusal reply (heard ++ [m]) ms n := by
  unfold refusal
  rw [List.append_assoc]
  rfl

end Heeded

/-! ### A call of the logger -/

namespace LogWorld

variable {w w' : LogWorld} {h : Handle}

theorem replyTo_congr (hl : w'.loggers = w.loggers) : w'.replyTo h = w.replyTo h := by
  funext heard m
  rw [replyTo, replyTo, hl]

theorem noticed_congr (hl : w'.loggers = w.loggers) : w'.noticed h = w.noticed h := by
  funext calls
  rw [noticed, noticed, hl]

section Lookup

variable {logger : Logger} {e : Host.InternalError}

theorem replyTo_of_ok (hl : w.loggers.get h = .ok logger) : w.replyTo h = logger.reply := by
  funext heard m
  rw [replyTo, hl]

theorem replyTo_of_error (hl : w.loggers.get h = .error e) (heard : List String) (m : String) :
    w.replyTo h heard m = .panic none := by
  rw [replyTo, hl]

theorem noticed_of_ok (hl : w.loggers.get h = .ok logger) (calls : List LogEvent) :
    w.noticed h calls = calls := by
  rw [noticed, hl]

theorem noticed_of_error (hl : w.loggers.get h = .error e) (calls : List LogEvent) :
    w.noticed h calls = [] := by
  rw [noticed, hl]

end Lookup

theorem noticed_append (calls calls' : List LogEvent) :
    w.noticed h (calls ++ calls') = w.noticed h calls ++ w.noticed h calls' := by
  cases hl : w.loggers.get h with
  | ok logger => rw [noticed_of_ok hl, noticed_of_ok hl, noticed_of_ok hl]
  | error e => rw [noticed_of_error hl, noticed_of_error hl, noticed_of_error hl, List.append_nil]

theorem noticed_nil : w.noticed h [] = [] := by
  cases hl : w.loggers.get h with
  | ok logger => exact noticed_of_ok hl []
  | error e => exact noticed_of_error hl []

/-- Who accepts a message was there to hear it. -/
theorem noticed_of_accepts {heard : List String} {m : String}
    (yes : (w.replyTo h heard m).accepts = true) (calls : List LogEvent) :
    w.noticed h calls = calls := by
  cases hl : w.loggers.get h with
  | ok logger => exact noticed_of_ok hl calls
  | error e =>
    rw [replyTo_of_error hl] at yes
    cases yes

theorem allocator_accepts : allocator.Accepts := Host.nativeEntries_accepts.onPart _ _

/-- Apart from the heap. -/
abbrev rest (w : LogWorld) : Host.CallbackRegistry Logger × List LogEvent := (w.loggers, w.events)

theorem free_keeps (b : Buffer) : Keeps rest (attempt (allocator.free b)) := by
  refine keeps_onPart ?_ _
  intro w heap
  rfl

theorem alloc_keeps (n : Nat) : Keeps rest (attempt (allocator.alloc n)) := by
  refine keeps_onPart ?_ _
  intro w heap
  rfl

/-- All but the heap is the same. -/
theorem eq_of_rest {w w' : LogWorld} (hr : w'.rest = w.rest) : ∃ heap, w' = { w with heap } := by
  obtain ⟨heap, loggers, events⟩ := w'
  obtain ⟨rfl, rfl⟩ := Prod.mk.inj hr
  exact ⟨heap, rfl⟩

theorem allocator_serves {n : Nat} (short : n ≤ maxLength) (w : LogWorld) :
    allocator.Serves n w :=
  (Host.nativeEntries_serves short w.heap).onPart _

/-- What cannot be lowered is not lowered on the host's side either. -/
theorem lower_unlowerable {v : Value} (hv : ¬ v.Lowerable) (w : LogWorld) :
    ∃ e w', v.lower allocator w = .error e w' := by
  refine Value.lower_refused hv fun long => ?_
  obtain ⟨e, hrefused⟩ := Host.nativeEntries_refuses long w.heap
  simp only [allocator, Allocator.onPart, onPart, hrefused]
  exact ⟨e, _, rfl⟩

end LogWorld

/-- The logger is called with the message that is in the buffer, and replies to it. -/
theorem callLogger_eq {h : Handle} {b : Buffer} {m : String}
    (holds : schema.contents .text b = .ok (.text m)) (w : LogWorld) :
    let reply := w.replyTo h (w.received h) m
    ∃ w', callLogger h b w = (reply, w') ∧
      w'.rest = (w.loggers, w.events ++ w.noticed h [.called h m reply.accepts]) := by
  intro reply
  rcases hlift : attempt (schema.lift LogWorld.allocator .text b) w with ⟨r, w₁⟩
  have hread := schema.lift_outcome LogWorld.allocator_accepts .text b w
  have hrest := schema.lift_keeps LogWorld.free_keeps .text b w
  rw [outcome, hlift, holds] at hread
  rw [hlift] at hrest
  have hr : r = .ok (.text m) := hread
  obtain ⟨heap, rfl⟩ := LogWorld.eq_of_rest hrest
  have hget₁ : ((get : StateM LogWorld LogWorld) { w with heap }).1.loggers.get h =
      w.loggers.get h := rfl
  cases hget : w.loggers.get h with
  | ok logger =>
    have hreply : reply = logger.reply (w.received h) m :=
      congrFun (congrFun (LogWorld.replyTo_of_ok hget) _) _
    refine ⟨{ w with heap, events := w.events ++ [.called h m reply.accepts] }, ?_, ?_⟩
    · rw [hreply]
      simp only [callLogger, stateM_bind, hlift, hr]
      rw [hget₁, hget]
      rfl
    · rw [LogWorld.noticed_of_ok hget]
  | error e =>
    have hreply : reply = .panic none := LogWorld.replyTo_of_error hget _ _
    refine ⟨{ w with heap }, ?_, ?_⟩
    · rw [hreply]
      simp only [callLogger, stateM_bind, hlift, hr]
      rw [hget₁, hget]
      rfl
    · rw [LogWorld.noticed_of_error hget, List.append_nil]

/-- Reporting a reply leaves all but the heap alone. -/
theorem report_keeps (reply : LogReply) (s : Status) : Keeps LogWorld.rest (reply.report s) := by
  have hanswer : ∀ o : Host.CallbackOutcome Unit,
      Keeps LogWorld.rest (Prod.snd <$> Host.answer LogWorld.allocator () o s) := fun o =>
    (Host.answer_keeps LogWorld.alloc_keeps LogWorld.free_keeps () o s).bind fun _ => keeps_pure _
  cases reply with
  | accept => exact hanswer _
  | reject reason => exact hanswer _
  | panic text => exact hanswer _
  | leave s' => exact keeps_pure s'

/-! ### What becomes of a reply -/

/-- What the native side hears of a reply. -/
inductive Heard : LogReply → Except ForeignFault Unit → Prop
  | accepted : Heard .accept (.ok ())
  | rejected {reason : String} (room : (LogReply.reject reason).Sendable) :
    Heard (.reject reason) (.error (.domain (LogRejection.toValue ⟨reason⟩)))
  | panicked {text : Option String} (room : (LogReply.panic text).Sendable) :
    Heard (.panic text) (.error (.unexpected (text.getD "callback panicked")))
  | unsent {reply : LogReply} {m : String} (no : reply.accepts = false)
    (long : ¬ reply.Sendable) : Heard reply (.error (.unexpected m))

theorem Heard.accepts {reply : LogReply} (h : Heard reply (.ok ())) : reply.accepts = true := by
  cases h
  rfl

theorem Heard.refuses {reply : LogReply} {f : ForeignFault} (h : Heard reply (.error f)) :
    reply.accepts = false := by
  cases h with
  | rejected room => rfl
  | panicked room => rfl
  | unsent no long => exact no

/-- How the native side fails when it has heard that a message was not accepted. -/
inductive FailsWith : LogReply → Fault → Prop
  | rejected {reason : String} {b : Buffer} (room : (LogReply.reject reason).Sendable)
    (holds : schema.contents SampleError.type b = .ok (SampleError.rejected reason).toValue) :
    FailsWith (.reject reason) (.domain b)
  | panicked {text : Option String} (room : (LogReply.panic text).Sendable) :
    FailsWith (.panic text) (.internal (text.getD "callback panicked"))
  | unsent {reply : LogReply} {m : String} (long : ¬ reply.Sendable) :
    FailsWith reply (.internal m)

theorem rejection_typed (e : LogRejection) :
    e.toValue.hasType schema LogRejection.type = true ∧ e.toValue.keyed = true := ⟨rfl, rfl⟩

/-- The native side is told how the method of a logger ended. -/
theorem told_of_short {o : Host.CallbackOutcome Unit}
    (short : ∀ n, o.request? = some n → n ≤ maxLength)
    (declared : ∀ e, o = .failed e → ∃ r : LogRejection, e = r.toValue) (w : LogWorld)
    (heap : Heap) : o.Told (checkForeign schema LogRejection.type
      (Host.answer LogWorld.allocator () o {} w).1.2 heap).1 := by
  have served : ∀ n, o.request? = some n → LogWorld.allocator.Serves n w :=
    fun n hn => LogWorld.allocator_serves (short n hn) w
  have hleaves : o.Leaves (Host.answer LogWorld.allocator () o {} w).1.2 :=
    Host.answer_leaves o rfl served
  refine hleaves.told schema LogRejection.type ?_ heap
  intro e he
  obtain ⟨r, rfl⟩ := declared e he
  exact rejection_typed r

/-- The native side hears what the logger replied. -/
theorem report_heard {reply : LogReply} (never : ∀ s, reply ≠ .leave s) (w : LogWorld)
    (heap : Heap) :
    Heard reply (checkForeign schema LogRejection.type (reply.report {} w).1 heap).1 := by
  cases reply with
  | accept =>
    have hok : (checkForeign schema LogRejection.type (LogReply.accept.report {} w).1 heap).1 =
        .ok () := checkForeign_success schema LogRejection.type heap rfl
    rw [hok]
    exact .accepted
  | reject reason =>
    have hstatus : ((LogReply.reject reason).report {} w).1 = (Host.answer LogWorld.allocator ()
        (.failed (LogRejection.toValue ⟨reason⟩)) {} w).1.2 := rfl
    rw [hstatus]
    by_cases room : (LogRejection.toValue ⟨reason⟩).Lowerable
    · have htold := told_of_short (o := .failed (LogRejection.toValue ⟨reason⟩))
        (by rintro n ⟨⟩; exact room.2) (by rintro e ⟨⟩; exact ⟨_, rfl⟩) w heap
      rw [(htold.domain _).2 ⟨rfl, room.1⟩]
      exact .rejected room
    · -- the host has no buffer for the reason, and says so
      obtain ⟨e, w', hl⟩ := LogWorld.lower_unlowerable room w
      obtain ⟨b, hb, -⟩ := Host.answer_unsent hl () {}
      rw [hb, checkForeign_panic_unexpected schema LogRejection.type heap rfl]
      exact .unsent rfl room
  | panic text =>
    have hstatus : ((LogReply.panic text).report {} w).1 = (Host.answer LogWorld.allocator ()
        (.panicked text) {} w).1.2 := rfl
    by_cases room : (Value.text (text.getD "callback panicked")).Lowerable
    · have htold := told_of_short (o := .panicked text) (by rintro n ⟨⟩; exact room.2) nofun w heap
      rw [hstatus, htold.panicked text rfl]
      exact .panicked room
    · obtain ⟨b, hb, -⟩ :=
        Host.panicStatus_layout LogWorld.allocator (text.getD "callback panicked") w
      have hb : (Host.answer LogWorld.allocator () (.panicked text) {} w).1.2 = .ofPanic b := hb
      rw [hstatus, hb, checkForeign_panic_unexpected schema LogRejection.type heap rfl]
      exact .unsent rfl room
  | leave s => exact absurd rfl (never s)

/-- The error that a rejection becomes is as long as the rejection. -/
theorem rejected_lowerable {reason : String} (room : (LogReply.reject reason).Sendable) :
    (SampleError.rejected reason).toValue.Lowerable := room

/-! ### Sending messages -/

theorem LogWorld.onHeap_of_ok {ε α : Type} {m : EStateM ε Heap α} {w : LogWorld} {a : α}
    {heap : Heap} (hm : m w.heap = .ok a heap) : onHeap m w = .ok a { w with heap } := by
  simp only [onHeap, onPart, hm]

theorem LogWorld.onHeap_of_error {ε α : Type} {m : EStateM ε Heap α} {w : LogWorld} {e : ε}
    {heap : Heap} (hm : m w.heap = .error e heap) : onHeap m w = .error e { w with heap } := by
  simp only [onHeap, onPart, hm]

/-- What the native side does once it has heard the reply to a message. -/
def heed (E : LoggerEntries) (h : Handle) (ms : List Value) :
    Except ForeignFault Unit → EStateM Fault LogWorld Nat
  | .ok () => do return (← deliver E h ms) + 1
  | .error f => LogWorld.onHeap <|
    match f with
    | .domain e => match LogRejection.ofValue? e with
      | some e => do throw (.domain (← lowerReturn (SampleError.rejected e.reason).toValue))
      | none => f.raise
    | .unexpected _ => f.raise

theorem deliver_cons (E : LoggerEntries) (h : Handle) (m : Value) (ms : List Value) :
    deliver E h (m :: ms) = (do
      let s ← E.log h (← LogWorld.onHeap (lowerReturn m)) {}
      heed E h ms (← LogWorld.withHeap (checkForeign schema LogRejection.type s))) := by
  rw [deliver]
  refine bind_congr fun b => bind_congr fun s => bind_congr fun r => ?_
  rcases r with f | ⟨⟩
  · rfl
  · rfl

/-- A message that is not accepted ends the sending. -/
theorem heed_failed {reply : LogReply} {f : ForeignFault} (hf : Heard reply (.error f))
    (E : LoggerEntries) (h : Handle) (ms : List Value) (w : LogWorld) :
    ∃ fault heap, heed E h ms (.error f) w = .error fault { w with heap } ∧
      FailsWith reply fault := by
  cases hf with
  | @rejected reason room =>
    obtain ⟨b, heap, hl, out, -, holds⟩ := Native.lower_handedOut w.heap (rejected_lowerable room)
    have hcontents : schema.contents SampleError.type b = .ok (SampleError.rejected reason).toValue :=
      schema.contents_whole rfl (rejected_lowerable room).1 rfl out.layout holds
    have hreturn : lowerReturn (SampleError.rejected reason).toValue w.heap = .ok b heap :=
      Host.ofWire_of_ok hl
    exact ⟨_, heap, LogWorld.onHeap_of_error (bind_of_ok hreturn _), .rejected room hcontents⟩
  | panicked room => exact ⟨_, w.heap, LogWorld.onHeap_of_error rfl, .panicked room⟩
  | unsent no long => exact ⟨_, w.heap, LogWorld.onHeap_of_error rfl, .unsent long⟩

/-- The logger is called with a message, and the native side hears its reply. -/
theorem deliver_heed {h : Handle} {m : String} {w : LogWorld}
    (short : (encodeText m).length ≤ maxLength)
    (never : ∀ heard m s, w.replyTo h heard m ≠ .leave s) (ms : List Value) :
    let reply := w.replyTo h (w.received h) m
    ∃ r w', Heard reply r ∧
      w'.rest = (w.loggers, w.events ++ w.noticed h [.called h m reply.accepts]) ∧
      deliver hostLogger h (.text m :: ms) w = heed hostLogger h ms r w' := by
  intro reply
  obtain ⟨b, heap₁, hl, out, -, holds⟩ :=
    Native.lower_handedOut (v := .text m) w.heap ⟨rfl, short⟩
  have hmessage : LogWorld.onHeap (lowerReturn (.text m)) w = .ok b { w with heap := heap₁ } :=
    LogWorld.onHeap_of_ok (Host.ofWire_of_ok hl)
  have hcontents : schema.contents .text b = .ok (.text m) :=
    schema.contents_whole (v := .text m) rfl rfl rfl out.layout holds
  obtain ⟨w₂, hcall, hrest₂⟩ := callLogger_eq (h := h) hcontents { w with heap := heap₁ }
  rcases hreport : reply.report {} w₂ with ⟨s, w₃⟩
  have hrest₃ : w₃.rest = w₂.rest := by
    have hkeeps := report_keeps reply {} w₂
    rwa [hreport] at hkeeps
  have hlog : hostLogger.log h b {} { w with heap := heap₁ } = (s, w₃) := by
    show (callLogger h b >>= fun r => r.report {}) _ = _
    rw [stateM_bind, hcall]
    exact hreport
  rcases hcheck : checkForeign schema LogRejection.type s w₃.heap with ⟨r, heap₄⟩
  have hheard : Heard reply r := by
    have hheard := report_heard (never (w.received h) m) w₂ w₃.heap
    rw [hreport, hcheck] at hheard
    exact hheard
  have hchecked : LogWorld.withHeap (checkForeign schema LogRejection.type s) w₃ =
      (r, { w₃ with heap := heap₄ }) := by
    simp only [LogWorld.withHeap, hcheck]
  refine ⟨r, { w₃ with heap := heap₄ }, hheard, hrest₃.trans hrest₂, ?_⟩
  rw [deliver_cons, bind_of_ok hmessage, bind_of_ok (liftM_eq hlog), bind_of_ok (liftM_eq hchecked)]

/-- How the sending ends, after so many messages were accepted and then there was this refusal, if
any. -/
inductive Delivered : Option LogReply → Nat → Except Fault Nat → Prop
  | all (n : Nat) : Delivered none n (.ok n)
  | failed {reply : LogReply} {f : Fault} (n : Nat) (hf : FailsWith reply f) :
    Delivered (some reply) n (.error f)

theorem Delivered.next {last : Option LogReply} {n : Nat} {o : Except Fault Nat}
    (h : Delivered last n o) : Delivered last (n + 1) (o.map (· + 1)) := by
  cases h with
  | all => exact .all (n + 1)
  | failed n hf => exact .failed (n + 1) hf

/-- **Messages are sent in order** until one is not accepted. -/
theorem deliver_delivered {h : Handle} {ms : List String} {w : LogWorld}
    (short : ∀ m ∈ ms, (encodeText m).length ≤ maxLength)
    (never : ∀ heard m s, w.replyTo h heard m ≠ .leave s) :
    ∃ n o w', attempt (deliver hostLogger h (ms.map .text)) w = (o, w') ∧
      Heeded (w.replyTo h) (w.received h) ms n ∧
      Delivered (refusal (w.replyTo h) (w.received h) ms n) n o ∧
      w'.rest = (w.loggers, w.events ++ w.noticed h (logCalls h ms n)) := by
  induction ms generalizing w with
  | nil =>
    refine ⟨0, .ok 0, w, rfl, heeded_nil, .all 0, ?_⟩
    have hnone : w.noticed h (logCalls h [] 0) = [] := LogWorld.noticed_nil
    rw [hnone, List.append_nil]
  | cons m ms ih =>
    have hshort := short m List.mem_cons_self
    obtain ⟨r, w₁, hheard, hrest, hrun⟩ := deliver_heed hshort never (ms.map .text)
    cases r with
    | error f =>
      have no := hheard.refuses
      obtain ⟨fault, heap, hfail, hf⟩ := heed_failed hheard hostLogger h (ms.map .text) w₁
      refine ⟨0, .error fault, { w₁ with heap }, attempt_error (hrun.trans hfail),
        heeded_here no, ?_, ?_⟩
      · rw [refusal_here]
        exact .failed 0 hf
      · rw [no] at hrest
        exact hrest
    | ok u =>
      have yes := hheard.accepts
      rw [yes] at hrest
      obtain ⟨hloggers, hevents⟩ := Prod.mk.inj hrest
      have hreply : w₁.replyTo h = w.replyTo h := LogWorld.replyTo_congr hloggers
      have hnoticed : w₁.noticed h = w.noticed h := LogWorld.noticed_congr hloggers
      have hreceived : w₁.received h = w.received h ++ [m] := by
        rw [LogWorld.noticed_of_accepts yes] at hevents
        unfold LogWorld.received
        rw [hevents, List.filterMap_append]
        simp
      obtain ⟨n, o, w₂, hattempt, hheeded, hdelivered, hrest₂⟩ :=
        ih (w := w₁) (fun m' hm' => short m' (List.mem_cons_of_mem m hm')) (hreply ▸ never)
      rw [hreply, hreceived] at hheeded hdelivered
      refine ⟨n + 1, o.map (· + 1), w₂, ?_, heeded_next yes hheeded, ?_, ?_⟩
      · have hmap := attempt_map (deliver hostLogger h (ms.map .text)) (· + 1) w₁
        rw [hattempt] at hmap
        unfold attempt at hmap ⊢
        rw [List.map_cons, hrun]
        exact hmap
      · rw [refusal_next]
        exact hdelivered.next
      · have hcalls : logCalls h (m :: ms) (n + 1) = [.called h m true] ++ logCalls h ms n := rfl
        rw [hrest₂, hnoticed, hloggers, hevents, hcalls, LogWorld.noticed_append,
          List.append_assoc]

/-! ### The whole call -/

/-- The table that the host has registered. -/
abbrev loggerTable : CallbackTable LoggerEntries :=
  { name := loggerInterface, entries := some hostLogger }

/-- Whatever becomes of the messages, the handle is released after them. -/
theorem emitLogs_releases {h : Handle} {messages : Buffer} {w w' : LogWorld}
    {o : Except Fault Nat}
    (ho : attempt (do
      let ms ← LogWorld.onHeap (liftArgument schema "messages" (.sequence .text) messages)
      deliver hostLogger h ms.items) w = (o, w')) :
    attempt (emitLogs loggerTable h messages) w = (o, { w' with
      events := w'.events ++ [.released h], loggers := w'.loggers.release h }) := by
  have hfree : hostLogger.free h w' = ((), { w' with
      events := w'.events ++ [.released h], loggers := w'.loggers.release h }) := rfl
  have htable : loggerTable.get = .ok hostLogger := rfl
  unfold emitLogs
  rw [attempt_bind_of_ok (ofExcept_of_ok htable w), attempt_bind_of_ok (liftM_attempt _ w), ho,
    attempt_bind_of_ok (liftM_eq hfree), attempt_ofExcept]

/-- The messages are those that the buffer stands for. -/
theorem lift_messages {messages : Buffer} {v : Value} (w : LogWorld)
    (holds : schema.contents (.sequence .text) messages = .ok v) :
    ∃ heap, LogWorld.onHeap (liftArgument schema "messages" (.sequence .text) messages) w =
      .ok v { w with heap } := by
  have hread := schema.lift_outcome allocator_accepts (.sequence .text) messages w.heap
  rw [holds] at hread
  cases hl : schema.lift allocator (.sequence .text) messages w.heap with
  | ok u heap =>
    rw [outcome, attempt_ok hl] at hread
    cases hread
    refine ⟨heap, LogWorld.onHeap_of_ok ?_⟩
    rw [liftArgument, hl]
  | error e heap =>
    rw [outcome, attempt_error hl] at hread
    cases hread

/-- There are no messages if the buffer makes no sense. -/
theorem lift_messages_error {messages : Buffer} {e : WireError} (w : LogWorld)
    (broken : schema.contents (.sequence .text) messages = .error e) :
    ∃ m heap, LogWorld.onHeap (liftArgument schema "messages" (.sequence .text) messages) w =
      .error (.internal m) { w with heap } := by
  have hread := schema.lift_outcome allocator_accepts (.sequence .text) messages w.heap
  rw [broken] at hread
  cases hl : schema.lift allocator (.sequence .text) messages w.heap with
  | ok u heap =>
    rw [outcome, attempt_ok hl] at hread
    cases hread
  | error e' heap =>
    have hfault : ∃ m, liftArgument schema "messages" (.sequence .text) messages w.heap =
        .error (.internal m) heap := by
      unfold liftArgument
      rw [hl]
      exact ⟨_, rfl⟩
    obtain ⟨m, hfault⟩ := hfault
    exact ⟨m, heap, LogWorld.onHeap_of_error hfault⟩

/-- What the host gets, after so many messages were accepted and then there was this refusal, if
any. -/
structure Comes (last : Option LogReply) (n : Nat) (r : Except Host.CallError Value) : Prop where
  all : last = none → r = .ok (.scalar ⟨.u32, .ofNat _ n⟩)
  rejected : ∀ reason, last = some (.reject reason) → (LogReply.reject reason).Sendable →
    r = .error (.domain (SampleError.rejected reason).toValue)
  panicked : ∀ text, last = some (.panic text) → (LogReply.panic text).Sendable →
    r = .error (.internal (Host.messageError (text.getD "callback panicked")))
  unsent : ∀ reply, last = some reply → ¬ reply.Sendable → ∃ e, r = .error (.internal e)

/-- The value of a call of `emitLogs`, from how the sending ended. -/
def countOf (o : Except Fault Nat) : Except Host.CallError Value :=
  Host.report schema SampleError.type (Host.wholeValue schema (.scalar .u32))
    (o.map fun n => .scalar ⟨.u32, .ofNat _ n⟩)

theorem Delivered.comes {last : Option LogReply} {n : Nat} {o : Except Fault Nat}
    (hd : Delivered last n o) : Comes last n (countOf o) := by
  cases hd with
  | all n =>
    constructor
    · intro _
      rfl
    · exact nofun
    · exact nofun
    · exact nofun
  | @failed reply f n hf =>
    constructor
    · exact nofun
    · rintro reason ⟨⟩ room
      cases hf with
      | rejected _ holds =>
        show Except.error (Host.declaredError schema SampleError.type _) = _
        rw [Host.declaredError, holds]
      | unsent long => exact absurd room long
    · rintro text ⟨⟩ room
      cases hf with
      | panicked _ => rfl
      | unsent long => exact absurd room long
    · rintro _ ⟨⟩ long
      cases hf with
      | rejected room _ => exact absurd room long
      | panicked room => exact absurd room long
      | unsent _ => exact ⟨_, rfl⟩

/-- The host gets what the native side came to. -/
theorem callEmitLogs_eq {h : Handle} {messages : Buffer} {w w' : LogWorld} {o : Except Fault Nat}
    (ho : attempt (emitLogs loggerTable h messages) w = (o, w')) :
    (callEmitLogs h messages w).1 = countOf o ∧ (callEmitLogs h messages w).2.rest = w'.rest := by
  have hbody : (do return .scalar ⟨.u32, .ofNat _ (← ofExcept o)⟩ : Body Lowered) =
      ofExcept (o.map fun n => .scalar ⟨.u32, .ofNat _ n⟩) := by
    cases o with
    | ok n => rfl
    | error f => rfl
  have hentry : emitLogsEntry loggerTable h messages {} w =
      LogWorld.withHeap (run (Category.scalar .u32).zero
        (ofExcept (o.map fun n => .scalar ⟨.u32, .ofNat _ n⟩)) {}) w' := by
    unfold emitLogsEntry
    rw [stateM_bind, ho, hbody]
  constructor
  · unfold callEmitLogs
    rw [Host.invoke_outcome schema LogWorld.allocator_accepts SampleError.type
      (Host.liftWhole_outcome schema LogWorld.allocator_accepts (.scalar .u32)), hentry]
    exact Host.accepting_run ..
  · unfold callEmitLogs
    rw [Host.invoke_keeps schema SampleError.type LogWorld.free_keeps
      (Host.liftWhole_keeps schema LogWorld.free_keeps (.scalar .u32)), hentry]
    rfl

/-- A released handle is in use no more, and every other handle is as it was. -/
theorem get_release (r : Host.CallbackRegistry Logger) (h : Handle) :
    (r.release h).get h = .error (.missingHandle h) ∧ ∀ k, k ≠ h → (r.release h).get k = r.get k := by
  constructor
  · show (r.handles.erase h).get h = _
    rw [Host.HandleTable.get, Host.HandleTable.find?_erase_self]
  · intro k hk
    show (r.handles.erase h).get k = r.handles.get k
    rw [Host.HandleTable.get, Host.HandleTable.get, Host.HandleTable.find?_erase_of_ne hk]

/-- **Logging from end to end.**  The messages that a buffer stands for are sent to the logger of a
handle, in order, up to the first that is not accepted; the host gets their number, or what the
logger said to the last; and the handle is released once, after all of that.  If the buffer makes no
sense, the handle is released and nothing else happens.

What the logger said is `Sendable` unless its buffer would take more than `maxLength` bytes, 2 ^ 31 - 1;
then the host gets an internal error (`Comes.unsent`). -/
theorem emitLogs_delivers (h : Handle) (messages : Buffer) (w : LogWorld)
    (never : ∀ heard m s, w.replyTo h heard m ≠ .leave s) :
    let (r, w') := callEmitLogs h messages w
    (w'.loggers.get h = .error (.missingHandle h) ∧
      ∀ k, k ≠ h → w'.loggers.get k = w.loggers.get k) ∧
      match schema.contents (.sequence .text) messages with
      | .ok v => ∃ (ms : List String) (n : Nat), v = .sequence (ms.map .text) ∧
        ms.length ≤ maxLength ∧ Heeded (w.replyTo h) (w.received h) ms n ∧
        w'.events = w.events ++ w.noticed h (logCalls h ms n) ++ [.released h] ∧
        Comes (refusal (w.replyTo h) (w.received h) ms n) n r
      | .error _ => w'.events = w.events ++ [.released h] ∧ ∃ e, r = .error (.internal e) := by
  rcases hcall : callEmitLogs h messages w with ⟨r, w'⟩
  -- whatever was sent, what is left of the registry is the same
  have hregistry : w'.loggers = w.loggers.release h → w'.loggers.get h = .error (.missingHandle h) ∧
      ∀ k, k ≠ h → w'.loggers.get k = w.loggers.get k := by
    intro hl
    rw [hl]
    exact get_release w.loggers h
  cases hc : schema.contents (.sequence .text) messages with
  | ok v =>
    obtain ⟨ms, rfl, hcount, hshort⟩ := Schema.texts_of_contents hc
    obtain ⟨heap, hlift⟩ := lift_messages w hc
    obtain ⟨n, o, w₁, hsent, hheeded, hdelivered, hrest⟩ :=
      deliver_delivered (h := h) (w := { w with heap }) hshort never
    obtain ⟨hr, hw⟩ := callEmitLogs_eq
      (emitLogs_releases ((attempt_bind_of_ok hlift _).trans hsent))
    obtain ⟨hloggers₁, hevents₁⟩ := Prod.mk.inj hrest
    obtain ⟨hloggers, hevents⟩ := Prod.mk.inj hw
    rw [hcall] at hr hloggers hevents
    have hl : w'.loggers = w.loggers.release h :=
      hloggers.trans (congrArg (·.release h) hloggers₁)
    have he : w'.events = w.events ++ w.noticed h (logCalls h ms n) ++ [.released h] :=
      hevents.trans (congrArg (· ++ [.released h]) hevents₁)
    have hr : r = countOf o := hr
    have hcomes : Comes (refusal (w.replyTo h) (w.received h) ms n) n r := by
      rw [hr]
      exact hdelivered.comes
    exact ⟨hregistry hl, ms, n, rfl, hcount, hheeded, he, hcomes⟩
  | error e =>
    obtain ⟨m, heap, hlift⟩ := lift_messages_error w hc
    obtain ⟨hr, hw⟩ := callEmitLogs_eq
      (emitLogs_releases (attempt_error (bind_of_error hlift _)))
    obtain ⟨hloggers, hevents⟩ := Prod.mk.inj hw
    rw [hcall] at hr hloggers hevents
    exact ⟨hregistry hloggers, hevents, _, hr⟩

/-- The logger of the first handle, which rejects what it has heard before. -/
def onceEach : LogWorld where
  loggers := (({} : Host.CallbackRegistry Logger).register
    ⟨fun heard m => if m ∈ heard then .reject "again" else .accept⟩).2

theorem replyTo_onceEach (heard : List String) (m : String) :
    onceEach.replyTo 1 heard m = if m ∈ heard then .reject "again" else .accept := rfl

/-- A message that comes again ends the logging. -/
theorem emitLogs_delivers_again :
    let messages := Value.sequence (["a", "a", "b"].map .text)
    let b := Buffer.ofBlock ⟨7, messages.encodeOuter, 0⟩
    let (r, w') := callEmitLogs 1 b onceEach
    r = .error (.domain (SampleError.rejected "again").toValue) ∧
      w'.events = [.called 1 "a" true, .called 1 "a" false, .released 1] := by
  intro messages b
  have never : ∀ heard m s, onceEach.replyTo 1 heard m ≠ .leave s := by
    intro heard m s
    rw [replyTo_onceEach]
    split <;> nofun
  have holds : schema.contents (.sequence .text) b = .ok messages :=
    schema.contents_whole (by decide) (by decide) (by decide) (by decide) (by decide)
  have hmain := emitLogs_delivers 1 b onceEach never
  rw [holds] at hmain
  rcases hcall : callEmitLogs 1 b onceEach with ⟨r, w'⟩
  rw [hcall] at hmain
  obtain ⟨-, ms, n, hms, -, heeded, hevents, hcomes⟩ := hmain
  have hms : ["a", "a", "b"] = ms :=
    List.map_injective_iff.2 (fun _ _ h => Value.text.inj h) (Value.sequence.inj hms)
  subst hms
  -- the first message is accepted, and the second is not
  have hpos : n ≠ 0 := by
    rintro rfl
    exact absurd (heeded.refuses "a" rfl) (by decide)
  have hle : ¬ 1 < n := by
    intro hlt
    exact absurd (heeded.accepts 1 "a" hlt rfl) (by decide)
  obtain rfl : n = 1 := by omega
  have hlast : refusal (onceEach.replyTo 1) (onceEach.received 1) ["a", "a", "b"] 1 =
      some (.reject "again") := rfl
  have room : (LogRejection.toValue ⟨"again"⟩).Lowerable := by decide
  exact ⟨hcomes.rejected "again" hlast room, hevents⟩

end Sample

end CallBoundary
