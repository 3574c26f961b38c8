import CallBoundary.Proofs.Host.Watch
import CallBoundary.Proofs.Native.Growth
import CallBoundary.Proofs.Sample.Logging

/-!
# What becomes of arguments

An entry point owns the buffers that it is given.  The functions of the sample library take a value
out of each of them before anything else can go wrong, and so give each of them back once, whatever
they hold and however the call ends (`entryOf_gives`, `task?_gives`).  Two entry points look at
something else first.  Making room in a buffer keeps the buffer, or moves its contents and gives it
back; but when it refuses to grow the buffer beyond the limit, the buffer is lost
(`reserve_overlong`).  Logging gives the messages back once the host has registered its loggers, and
loses them before (`emitLogs_unregistered`).
-/

namespace CallBoundary

/-- The data that comes with a lowered value. -/
def Lowered.blocks : Lowered → List Nat
  | buffer b => b.address?.toList
  | _ => []

/-- The layouts of all buffers among some lowered values make sense. -/
def Lowered.SoundAll (args : List Lowered) : Prop := ∀ b, .buffer b ∈ args → b.check = .ok ()

namespace Sample

open Native

variable {a : Nat}

theorem blocks_zero (c : Category) : c.zero.blocks = [] := by cases c <;> rfl

/-- What a body has given back and returned stays so when its outcome is reported. -/
theorem run_lowered_gives {body : Body Lowered} {k : Nat}
    (hb : (Heap.watch a).Gives k (attempt body) fun r => ∀ l, r = .ok l → a ∉ l.blocks)
    (c : Category) (s : Status) :
    (Heap.watch a).Gives k (run c.zero body s) fun out => a ∉ out.1.blocks := by
  refine (run_gives c.zero hb s).mono ?_
  rintro out (hzero | hout)
  · rw [hzero, blocks_zero]
    exact List.not_mem_nil
  · exact hout _ rfl

/-! ### The functions -/

/-- A declared error is put into a new buffer too. -/
theorem declared_spares {α : Type} {P : Except Fault α → Prop} (v : Value)
    (hpost : ∀ f, P (.error f)) :
    (Heap.watch a).Gives 0 (attempt (do throw (.domain (← lowerReturn v)) : Body α)) P := by
  refine (lowerReturn_spares v).attempt_bind ?_ (fun f _ => hpost f)
  intro b _
  exact Watch.gives_ofExcept (x := .error (.domain b)) (hpost _)

section Functions

variable {b : Buffer} (layout : b.check = .ok ())

/-- The result is put into a new buffer. -/
theorem result_spares (v : Value) :
    (Heap.watch a).Gives 0 (attempt (do return .buffer (← lowerReturn v) : Body Lowered))
      fun r => ∀ l, r = .ok l → a ∉ l.blocks := by
  refine (lowerReturn_spares v).attempt_bind ?_ (fun _ _ => nofun)
  intro b hb
  have hb : b.address? ≠ some a := hb b rfl
  refine Watch.gives_pure ?_
  rintro _ ⟨⟩
  simpa [Lowered.blocks] using hb

include layout

theorem liftText_gives (name : String) :
    (Heap.watch a).Gives (b.address?.toList.count a) (attempt (liftText name b))
      fun _ => True := by
  unfold liftText
  rw [map_eq_pure_bind]
  exact (liftArgument_gives schema name .text layout).attempt_bind
    (fun _ _ => Watch.gives_pure trivial) (fun _ _ => trivial)

theorem echoEntry_gives (argument : String) (t : WireType) :
    (Heap.watch a).Gives (b.address?.toList.count a) (attempt (echoEntry argument t b))
      fun r => ∀ l, r = .ok l → a ∉ l.blocks :=
  (liftArgument_gives schema argument t layout).attempt_bind (fun v _ => result_spares v)
    (fun _ _ => nofun)

theorem greetEntry_gives :
    (Heap.watch a).Gives (b.address?.toList.count a) (attempt (greetEntry b))
      fun r => ∀ l, r = .ok l → a ∉ l.blocks :=
  (liftText_gives layout "name").attempt_bind (fun _ _ => result_spares _) (fun _ _ => nofun)

theorem failHardEntry_gives :
    (Heap.watch a).Gives (b.address?.toList.count a) (attempt (failHardEntry b))
      fun r => ∀ l, r = .ok l → a ∉ l.blocks :=
  (liftText_gives layout "message").attempt_bind
    (fun _ _ => Watch.gives_ofExcept (x := .error _) nofun) (fun _ _ => nofun)

/-- Both buffers are given back before either failure is reported. -/
theorem lookupEntry_gives {key : Buffer} (layout' : key.check = .ok ()) :
    (Heap.watch a).Gives (b.address?.toList.count a + key.address?.toList.count a)
      (attempt (lookupEntry b key)) fun r => ∀ l, r = .ok l → a ∉ l.blocks := by
  refine (liftArgument_gives schema "entries" (.map .text .text) layout).liftM_bind_add ?_
  intro entries _
  refine (liftText_gives layout' "key").liftM_bind ?_
  intro k _
  refine Watch.gives_ofExcept_bind (fun entries => ?_) (fun _ => nofun)
  refine Watch.gives_ofExcept_bind (fun k => ?_) (fun _ => nofun)
  cases find entries.entries k with
  | ok s => exact result_spares _
  | error e => exact declared_spares e.toValue fun _ => nofun

end Functions

theorem addEntry_spares (t : ScalarType) (x y : BitVec t.bits) :
    (Heap.watch a).Gives 0 (attempt (addEntry t x y)) fun r => ∀ l, r = .ok l → a ∉ l.blocks := by
  unfold addEntry
  cases sum t x y with
  | ok s =>
    refine Watch.gives_pure ?_
    rintro _ ⟨⟩
    exact List.not_mem_nil
  | error m => exact Watch.gives_ofExcept (x := .error _) nofun

theorem lowerQuotient_spares (x y : BitVec 64) :
    (Heap.watch a).Gives 0 (attempt (lowerQuotient x y))
      fun r => ∀ l, r = .ok l → a ∉ l.blocks := by
  unfold lowerQuotient
  cases quotient (.ofBits ⟨x⟩) (.ofBits ⟨y⟩) with
  | ok q =>
    refine Watch.gives_pure ?_
    rintro _ ⟨⟩
    exact List.not_mem_nil
  | error e => exact declared_spares e.toValue fun _ => nofun

/-- **A function gives its arguments back**, each once. -/
theorem entryOf_gives {name : String} {args : List Lowered} {body : Body Lowered}
    (h : entryOf name args = some body) (sound : Lowered.SoundAll args) :
    (Heap.watch a).Gives ((args.flatMap Lowered.blocks).count a) (attempt body)
      fun r => ∀ l, r = .ok l → a ∉ l.blocks := by
  unfold entryOf at h
  split at h <;> cases h <;>
    simp only [List.flatMap_cons, List.flatMap_nil, List.append_nil, Lowered.blocks,
      List.count_append, List.count_nil]
  · exact Watch.gives_ofExcept (x := .error _) nofun
  · exact addEntry_spares _ _ _
  · exact greetEntry_gives (sound _ (by simp))
  · exact echoEntry_gives (sound _ (by simp)) _ _
  · exact echoEntry_gives (sound _ (by simp)) _ _
  · exact echoEntry_gives (sound _ (by simp)) _ _
  · exact echoEntry_gives (sound _ (by simp)) _ _
  · exact echoEntry_gives (sound _ (by simp)) _ _
  · exact lowerQuotient_spares _ _
  · exact lookupEntry_gives (sound _ (by simp)) (sound _ (by simp))
  · exact failHardEntry_gives (sound _ (by simp))

/-- **An asynchronous function gives its arguments back** before it gives a task. -/
theorem task?_gives {name : String} {args : List Lowered} {begin : StateM Heap Host.NativeTask}
    (h : task? name args = some begin) (sound : Lowered.SoundAll args) :
    (Heap.watch a).Gives ((args.flatMap Lowered.blocks).count a) begin fun _ => True := by
  have hpure : ∀ t : Host.NativeTask, (Heap.watch a).Gives 0 (pure t) fun _ => True :=
    fun t => Watch.gives_pure trivial
  unfold task? at h
  split at h <;> cases h <;>
    simp only [List.flatMap_cons, List.flatMap_nil, List.append_nil, Lowered.blocks,
      List.count_nil]
  · exact hpure _
  · exact (liftText_gives (sound _ (by simp)) "name").bind fun _ _ => hpure _
  · exact hpure _
  · exact hpure _
  · exact (liftText_gives (sound _ (by simp)) "message").bind fun _ _ => hpure _

/-! ### Making room -/

section Reserve

variable {b : Buffer} {additional : Nat} {h : Heap}

/-- A buffer keeps its block if there is room, and else its block is given back for a new one. -/
theorem grow_gives (old : a < h.next) (b : Buffer) (additional : Nat) :
    let out := grow b additional h
    ∃ k, h.GivenBack a k out.2 ∧
      k + out.1.address?.toList.count a = b.address?.toList.count a := by
  have hnew : [h.next].count a = 0 := by
    rw [List.count_singleton, if_neg]
    simpa using Nat.ne_of_gt old
  obtain ⟨_ | blk, n⟩ := b
  · exact ⟨0, .place old [] additional, by rw [Nat.zero_add]; exact hnew⟩
  · by_cases room : n + additional ≤ blk.size
    · have hgrow : grow ⟨.block blk, n⟩ additional h = (⟨.block blk, n⟩, h) := if_pos room
      rw [hgrow]
      exact ⟨0, .refl a h, Nat.zero_add _⟩
    · have hgrow : grow ⟨.block blk, n⟩ additional h = _ := if_neg room
      have hplace := Heap.GivenBack.place (h := h.release blk.address) old (blk.first n) additional
      rw [hgrow]
      refine ⟨_, (Heap.GivenBack.release a blk.address h).trans hplace, ?_⟩
      exact congrArg (_ + ·) hnew

theorem reserve_gives (layout : b.check = .ok ()) (old : a < h.next)
    (room : b.length + additional ≤ maxLength) (s : Status) :
    let out := reserveBuffer b additional s h
    ∃ k, h.GivenBack a k out.2 ∧
      k + out.1.1.address?.toList.count a = b.address?.toList.count a := by
  rw [reserveBuffer_of_room s h (roomFor_eq_ok.2 ⟨layout, room⟩)]
  exact grow_gives old b additional

/-- **A buffer that may not grow any more is lost**: there is no buffer in its place, and its block
is not given back. -/
theorem reserve_overlong (old : a < h.next) (long : maxLength < b.length + additional) (s : Status) :
    let out := reserveBuffer b additional s h
    h.GivenBack a 0 out.2 ∧ out.1.1 = .unallocated := by
  have hlong := maxLength_lt_target.2 long
  have hrun : (Heap.watch a).Gives 0 (reserveBuffer b additional s)
      fun out => out.1 = .unallocated := by
    refine (run_gives Buffer.unallocated (P := fun r => ∀ x, r ≠ .ok x) ?_ s).mono ?_
    · refine (ofWire_gives (P := fun _ => False) ?_).mono fun r hr x hx => hr x hx
      simp only [if_pos hlong]
      exact Watch.gives_ofExcept (x := .error _) nofun
    · rintro out (hzero | hno)
      · exact hzero
      · exact absurd rfl (hno _)
  obtain ⟨-, given, hout⟩ := hrun h old
  exact ⟨given, hout⟩

end Reserve

/-! ### Logging -/

/-- No logger leaves a block of the native side behind in a status. -/
def LogWorld.LeavesNot (a : Nat) (w : LogWorld) : Prop :=
  ∀ h heard m s, w.replyTo h heard m = .leave s → s.payload.address? ≠ some a

/-- A block is watched while messages are logged. -/
def LogWorld.watch (a : Nat) : Watch LogWorld where
  address := a
  heap := LogWorld.heap
  inv w := a < w.heap.next ∧ w.LeavesNot a

section Logging

variable {k : Nat}

theorem onHeap_gives {ε α : Type} {m : EStateM ε Heap α} {P : Except ε α → Prop}
    (hm : (Heap.watch a).Gives k (attempt m) P) :
    (LogWorld.watch a).Gives k (attempt (LogWorld.onHeap m)) P := by
  rintro w ⟨old, never⟩
  obtain ⟨old', given, hpost⟩ := hm w.heap old
  cases hr : m w.heap with
  | ok x heap =>
    rw [attempt_ok hr] at old' given hpost
    rw [attempt_ok (LogWorld.onHeap_of_ok hr)]
    exact ⟨⟨old', never⟩, given, hpost⟩
  | error e heap =>
    rw [attempt_error hr] at old' given hpost
    rw [attempt_error (LogWorld.onHeap_of_error hr)]
    exact ⟨⟨old', never⟩, given, hpost⟩

theorem withHeap_gives {α : Type} {m : StateM Heap α} {P : α → Prop}
    (hm : (Heap.watch a).Gives k m P) :
    (LogWorld.watch a).Gives k (LogWorld.withHeap m) P := by
  rintro w ⟨old, never⟩
  obtain ⟨old', given, hpost⟩ := hm w.heap old
  exact ⟨⟨old', never⟩, given, hpost⟩

theorem LogWorld.allocator_sparing (a : Nat) :
    (LogWorld.watch a).Sparing LogWorld.allocator where
  alloc n := onHeap_gives ((Host.nativeEntries_sparing a).alloc n)
  free b hb := onHeap_gives ((Host.nativeEntries_sparing a).free b hb)

theorem callLogger_spares (h : Handle) {b : Buffer} (hb : (LogWorld.watch a).Spares b) :
    (LogWorld.watch a).Gives 0 (callLogger h b)
      fun reply => ∀ s, reply = .leave s → (LogWorld.watch a).Spares s.payload := by
  refine ((LogWorld.allocator_sparing a).lift schema .text hb).bind ?_
  rintro r - w ⟨old, never⟩
  rcases r with e | m
  · exact ⟨⟨old, never⟩, .refl a w.heap, nofun⟩
  · have hget : ((get : StateM LogWorld LogWorld) w).1.loggers.get h = w.loggers.get h := rfl
    rw [stateM_bind, hget]
    cases hl : w.loggers.get h with
    | error e => exact ⟨⟨old, never⟩, .refl a w.heap, nofun⟩
    | ok logger =>
      refine ⟨⟨old, never⟩, .refl a w.heap, ?_⟩
      intro s hs
      refine never h (w.received h) m.asText s ?_
      rw [LogWorld.replyTo_of_ok hl]
      exact hs

theorem report_spares {reply : LogReply}
    (hr : ∀ s, reply = .leave s → (LogWorld.watch a).Spares s.payload) :
    (LogWorld.watch a).Gives 0 (reply.report {}) fun s => (LogWorld.watch a).Spares s.payload := by
  have hnone : (LogWorld.watch a).Spares ({} : Status).payload := nofun
  have hanswer : ∀ o : Host.CallbackOutcome Unit, (LogWorld.watch a).Gives 0
      (Prod.snd <$> Host.answer LogWorld.allocator () o {})
        fun s => (LogWorld.watch a).Spares s.payload := fun o =>
    ((LogWorld.allocator_sparing a).answer o hnone).bind fun _ h => Watch.gives_pure h
  cases reply with
  | accept => exact hanswer _
  | reject reason => exact hanswer _
  | panic text => exact hanswer _
  | leave s => exact Watch.gives_pure (hr s rfl)

theorem raise_spares {α : Type} (f : ForeignFault) :
    (Heap.watch a).Gives 0 (attempt (f.raise : Body α)) fun _ => True := by
  cases f with
  | domain e => exact declared_spares e fun _ => trivial
  | unexpected m => exact Watch.gives_ofExcept (x := .error _) trivial

/-- The messages that are sent lie in buffers of their own. -/
theorem deliver_spares (h : Handle) (ms : List Value) :
    (LogWorld.watch a).Gives 0 (attempt (deliver hostLogger h ms)) fun _ => True := by
  induction ms with
  | nil => exact Watch.gives_pure trivial
  | cons m ms ih =>
    rw [deliver_cons]
    refine (onHeap_gives (lowerReturn_spares m)).attempt_bind ?_ (fun _ _ => trivial)
    intro b hb
    have hb : (LogWorld.watch a).Spares b := hb b rfl
    have hlog : (LogWorld.watch a).Gives 0 (hostLogger.log h b {})
        fun s => (LogWorld.watch a).Spares s.payload :=
      (callLogger_spares h hb).bind fun _ hr => report_spares hr
    refine hlog.liftM_bind ?_
    intro s hs
    refine (withHeap_gives (checkForeign_spares schema LogRejection.type hs)).liftM_bind ?_
    intro r _
    rcases r with f | ⟨⟩
    · refine onHeap_gives ?_
      cases f with
      | domain e =>
        cases hv : LogRejection.ofValue? e with
        | none => simpa only [hv] using raise_spares (.domain e)
        | some e' => simpa only [hv] using declared_spares _ fun _ => trivial
      | unexpected m => exact raise_spares (.unexpected m)
    · exact ih.attempt_bind (fun _ _ => Watch.gives_pure trivial) (fun _ _ => trivial)

/-- A released handle is no logger's, and what the others leave behind is the same. -/
theorem release_spares (h : Handle) :
    (LogWorld.watch a).Gives 0 (hostLogger.free h) fun _ => True := by
  rintro w ⟨old, never⟩
  refine ⟨⟨old, ?_⟩, .refl a w.heap, trivial⟩
  intro k heard m s hs
  obtain ⟨hself, hother⟩ := get_release w.loggers h
  by_cases hk : k = h
  · subst hk
    rw [LogWorld.replyTo_of_error hself] at hs
    cases hs
  · have hl : (hostLogger.free h w).2.loggers.get k = w.loggers.get k := hother k hk
    refine never k heard m s ?_
    unfold LogWorld.replyTo at hs ⊢
    rwa [hl] at hs

theorem emitLogs_gives {messages : Buffer} (layout : messages.check = .ok ()) (h : Handle) :
    (LogWorld.watch a).Gives (messages.address?.toList.count a)
      (attempt (emitLogs loggerTable h messages)) fun _ => True := by
  refine Watch.Gives.check_bind (a := hostLogger) rfl ?_
  have hsent := (onHeap_gives (a := a)
    (liftArgument_gives schema "messages" (.sequence .text) layout)).attempt_bind
      (fun ms _ => deliver_spares h ms.items) (fun _ _ => trivial)
  refine hsent.liftM_bind ?_
  intro outcome _
  refine (release_spares h).liftM_bind ?_
  intro _ _
  exact Watch.gives_ofExcept trivial

/-- What became of the messages stays so when the outcome is reported. -/
theorem emitLogsEntry_gives {table : CallbackTable LoggerEntries} {h : Handle} {messages : Buffer}
    (hm : (LogWorld.watch a).Gives k (attempt (emitLogs table h messages)) fun _ => True)
    (s : Status) :
    (LogWorld.watch a).Gives k (emitLogsEntry table h messages s) fun out => a ∉ out.1.blocks := by
  refine hm.bind ?_
  intro outcome _
  refine withHeap_gives (run_lowered_gives ?_ (.scalar .u32) s)
  refine Watch.gives_ofExcept_bind (fun n => Watch.gives_pure ?_) (fun _ => nofun)
  rintro _ ⟨⟩
  exact List.not_mem_nil

/-- **Without registered loggers the messages are lost**: their buffer is not given back. -/
theorem emitLogs_unregistered (h : Handle) (messages : Buffer) :
    (LogWorld.watch a).Gives 0
      (attempt (emitLogs { name := loggerInterface } h messages)) fun _ => True := by
  have hget : ({ name := loggerInterface } : CallbackTable LoggerEntries).get =
      .error (.internal s!"Callback vtable {loggerInterface} not registered") := rfl
  unfold emitLogs
  rw [hget]
  exact Watch.gives_ofExcept (x := .error _) trivial

end Logging

/-! ### All calls -/

/-- A call of an entry point that the buffers among its arguments are handed over to. -/
inductive Handoff where
  /-- A function that answers at once. -/
  | function {name : String} {args : List Lowered} {body : Body Lowered} (c : Category)
    (exported : entryOf name args = some body)
  /-- A function that answers later. -/
  | task {name : String} {args : List Lowered} {begin : StateM Heap Host.NativeTask}
    (exported : task? name args = some begin)
  /-- More room for a buffer. -/
  | reserve (b : Buffer) (additional : Nat)
  /-- Messages for a logger, when loggers are registered and when they are not. -/
  | logging (registered : Bool) (logger : Handle) (messages : Buffer)

namespace Handoff

/-- The arguments. -/
def args : Handoff → List Lowered
  | @function _ args _ _ _ => args
  | @task _ args _ _ => args
  | reserve b _ => [.buffer b]
  | logging _ _ messages => [.buffer messages]

/-- The data that is handed over. -/
def blocks (t : Handoff) : List Nat := t.args.flatMap Lowered.blocks

/-- The table of loggers. -/
def table (registered : Bool) : CallbackTable LoggerEntries :=
  { name := loggerInterface, entries := if registered then some hostLogger else none }

/-- The call, and what it returns. -/
def perform (s : Status) : Handoff → StateM LogWorld Lowered
  | @function _ _ body c _ => LogWorld.withHeap do return (← run c.zero body s).1
  | @task _ _ begin _ => LogWorld.withHeap do
    let _ ← begin
    return .void
  | reserve b additional =>
    LogWorld.withHeap do return .buffer (← reserveBuffer b additional s).1
  | logging registered logger messages => do
    return (← emitLogsEntry (table registered) logger messages s).1

/-- The call ends before it has looked at its buffer. -/
def EndsEarly : Handoff → Prop
  | reserve b additional => maxLength < b.length + additional
  | logging registered _ _ => registered = false
  | _ => False

end Handoff

/-- What is returned is new, so all that was handed over has been given back. -/
theorem Handoff.settled {t : Handoff} {s : Status} {w : LogWorld}
    (h : (LogWorld.watch a).Gives (t.blocks.count a) (t.perform s) fun l => a ∉ l.blocks)
    (old : a < w.heap.next) (never : w.LeavesNot a) :
    let out := t.perform s w
    ∃ k, w.heap.GivenBack a k out.2.heap ∧ k + out.1.blocks.count a = t.blocks.count a := by
  obtain ⟨-, given, hout⟩ := h w ⟨old, never⟩
  refine ⟨_, given, ?_⟩
  rw [List.count_eq_zero.2 hout, Nat.add_zero]

/-- **Arguments are given back.**  A block that a heap knows of is watched through a call of an entry
point.  As often as it was handed over with an argument, it is given back or returned, whatever the
buffers hold and however the call ends.  Only two calls end before they have looked at their buffer,
which is lost then: more room is asked for than there may be, or loggers are not registered. -/
theorem arguments_given_back (t : Handoff) (s : Status) (w : LogWorld) (a : Nat)
    (sound : Lowered.SoundAll t.args) (old : a < w.heap.next) (never : w.LeavesNot a) :
    let out := t.perform s w
    (¬ t.EndsEarly →
      ∃ k, w.heap.GivenBack a k out.2.heap ∧ k + out.1.blocks.count a = t.blocks.count a) ∧
    (t.EndsEarly → w.heap.GivenBack a 0 out.2.heap ∧ a ∉ out.1.blocks) := by
  have hone : ∀ b : Buffer, [Lowered.buffer b].flatMap Lowered.blocks = b.address?.toList :=
    fun b => List.append_nil _
  cases t with
  | function c exported =>
    have hrun := (run_lowered_gives (entryOf_gives (a := a) exported sound) c s).bind
      fun out hout => Watch.gives_pure (P := fun l : Lowered => a ∉ l.blocks) hout
    exact ⟨fun _ => Handoff.settled (withHeap_gives hrun) old never, nofun⟩
  | task exported =>
    have hrun := (task?_gives (a := a) exported sound).bind fun _ _ =>
      Watch.gives_pure (P := fun l : Lowered => a ∉ l.blocks) (a := .void) List.not_mem_nil
    exact ⟨fun _ => Handoff.settled (withHeap_gives hrun) old never, nofun⟩
  | reserve b additional =>
    constructor
    · intro room
      have layout : b.check = .ok () := sound b List.mem_cons_self
      obtain ⟨k, given, hk⟩ := reserve_gives layout old (Nat.not_lt.1 room) s
      exact ⟨k, given, by rw [Handoff.blocks, Handoff.args, hone]; exact hk⟩
    · intro long
      have overlong : maxLength < b.length + additional := long
      obtain ⟨given, hnone⟩ := reserve_overlong old overlong s
      refine ⟨given, ?_⟩
      show a ∉ (reserveBuffer b additional s w.heap).1.1.address?.toList
      rw [hnone]
      exact List.not_mem_nil
  | logging registered logger messages =>
    have hrun : ∀ {k}, (LogWorld.watch a).Gives k
        (attempt (emitLogs (Handoff.table registered) logger messages)) (fun _ => True) →
        (LogWorld.watch a).Gives k ((Handoff.logging registered logger messages).perform s)
          fun l => a ∉ l.blocks := fun h =>
      (emitLogsEntry_gives h s).bind fun out hout =>
        Watch.gives_pure (P := fun l : Lowered => a ∉ l.blocks) hout
    cases registered with
    | true =>
      have layout : messages.check = .ok () := sound messages List.mem_cons_self
      refine ⟨fun _ => Handoff.settled ?_ old never, nofun⟩
      rw [Handoff.blocks, Handoff.args, hone]
      exact hrun (emitLogs_gives layout logger)
    | false =>
      refine ⟨fun h => absurd rfl h, fun _ => ?_⟩
      obtain ⟨-, given, hout⟩ := hrun (emitLogs_unregistered logger messages) w ⟨old, never⟩
      exact ⟨given, hout⟩

/-- Of two arguments the first makes no sense, and both are given back. -/
theorem arguments_given_back_lookup :
    let entries : Buffer := .ofBlock ⟨5, [1, 2], 0⟩
    let key : Buffer := .ofBlock ⟨7, encodeText "k", 0⟩
    let t : Handoff := .function .buffer
      (rfl : entryOf "lookup" [.buffer entries, .buffer key] = some (lookupEntry entries key))
    let w : LogWorld := { heap := { next := 8, live := [7, 5] } }
    let out := t.perform {} w
    Lowered.SoundAll t.args ∧ ¬ t.EndsEarly ∧ ∀ a ∈ [5, 7], a < w.heap.next ∧ w.LeavesNot a ∧
      ∃ k, w.heap.GivenBack a k out.2.heap ∧ k + out.1.blocks.count a = 1 := by
  intro entries key t w out
  have sound : Lowered.SoundAll t.args := by
    intro b hb
    rcases List.mem_cons.1 hb with ⟨⟨⟩⟩ | hb
    · rfl
    · rcases List.mem_singleton.1 hb with ⟨⟨⟩⟩
      rfl
  have never : ∀ a, w.LeavesNot a := by
    intro a k heard m s hs
    cases hs
  refine ⟨sound, id, ?_⟩
  intro a ha
  have old : a < w.heap.next ∧ t.blocks.count a = 1 := by
    rcases List.mem_cons.1 ha with rfl | ha
    · decide
    · rcases List.mem_singleton.1 ha with rfl
      decide
  have hmain := (arguments_given_back t {} w a sound old.1 (never a)).1 id
  rw [old.2] at hmain
  exact ⟨old.1, never a, hmain⟩

/-- Two exits that lose a buffer: one byte more than the limit is asked for, and there are no
loggers yet. -/
theorem lost_on_early_exit :
    let b : Buffer := .ofBlock ⟨5, [0], 0⟩
    let h : Heap := { next := 6, live := [5] }
    b.check = .ok () ∧
      (∃ s h', reserveBuffer b maxLength {} h = ((.unallocated, s), h') ∧
        5 ∉ h'.released ∧ 5 ∈ h'.live) ∧
      ∃ out w', emitLogsEntry { name := loggerInterface } 1 b {} { heap := h } = (out, w') ∧
        5 ∉ w'.heap.released ∧ 5 ∈ w'.heap.live := by
  intro b h
  have hlost : ∀ h', h.GivenBack 5 0 h' → 5 ∉ h'.released ∧ 5 ∈ h'.live := by
    intro h' given
    have hreleased : h'.released.count 5 = 0 := given.released
    have hlive : h'.live.count 5 = 1 := given.live
    exact ⟨List.count_eq_zero.1 hreleased, List.count_pos_iff.1 (by omega)⟩
  have old : 5 < h.next := by decide
  refine ⟨rfl, ?_, ?_⟩
  · have hover : ∀ n, maxLength < b.length + n → ∃ s h', reserveBuffer b n {} h =
        ((.unallocated, s), h') ∧ 5 ∉ h'.released ∧ 5 ∈ h'.live := by
      intro n long
      obtain ⟨given, hnone⟩ := reserve_overlong old long {}
      exact ⟨_, _, Prod.ext (Prod.ext hnone rfl) rfl, hlost _ given⟩
    exact hover maxLength (by decide)
  · have never : ({ heap := h } : LogWorld).LeavesNot 5 := by
      intro k heard m s hs
      cases hs
    obtain ⟨-, given, -⟩ := emitLogsEntry_gives (emitLogs_unregistered (a := 5) 1 b) {}
      { heap := h } ⟨old, never⟩
    exact ⟨_, _, rfl, hlost _ given⟩

end Sample

end CallBoundary
