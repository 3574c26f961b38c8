import CallBoundary.Host.BufferEntries
import CallBoundary.Host.Callback
import CallBoundary.Host.HandleTable
import CallBoundary.Native.Callback
import CallBoundary.Sample.Types

/-!
# Logging to a host object

`emitLogs` is a native function that sends messages to a logger of the host, one call each, until
the logger does not accept one.  The boundary is crossed twice for every message.  The logger's
handle is released before the function returns, however it ends, once its entry points are known.
-/

namespace CallBoundary.Sample

open Native

/-- How a logger takes a message. -/
inductive LogReply where
  | accept
  | reject (reason : String)
  /-- Panics, with a text if it has one. -/
  | panic (text : Option String)
  /-- Accepts the message, but leaves this status behind. -/
  | leave (s : Status)
deriving DecidableEq, Repr

/-- Whether the message was accepted. -/
def LogReply.accepts : LogReply → Bool
  | accept | leave _ => true
  | _ => false

/-- A host object that takes messages.  Its reply may depend on the messages it got before, oldest
first. -/
structure Logger where
  reply : List String → String → LogReply

/-- Whether a word occurs in a text, given as characters. -/
def occursIn (word : List Char) : List Char → Bool
  | [] => word.isEmpty
  | c :: cs => word.isPrefixOf (c :: cs) || occursIn word cs

/-- The logger that follows rules: the first rule whose word occurs in the message gives the reply,
and a message that no rule is about is accepted. -/
def Logger.ofRules (rules : List (String × LogReply)) : Logger where
  reply _ m := ((rules.find? fun r => occursIn r.1.toList m.toList).map (·.2)).getD .accept

/-- What happens to loggers. -/
inductive LogEvent where
  /-- The logger of a handle is called with a message. -/
  | called (h : Handle) (message : String) (accepted : Bool)
  /-- A handle is released. -/
  | released (h : Handle)
deriving DecidableEq, Repr

/-- What logging acts on. -/
structure LogWorld where
  heap : Heap := {}
  loggers : Host.CallbackRegistry Logger := {}
  /-- What has happened, oldest first. -/
  events : List LogEvent := []

namespace LogWorld

/-- The messages that the logger of a handle got, oldest first. -/
def received (w : LogWorld) (h : Handle) : List String :=
  w.events.filterMap fun
    | .called h' m _ => if h' = h then some m else none
    | .released _ => none

/-- The messages that were accepted, oldest first. -/
def accepted (w : LogWorld) : List String :=
  w.events.filterMap fun
    | .called _ m true => some m
    | _ => none

/-- Something has happened. -/
def note (e : LogEvent) : StateM LogWorld Unit :=
  modify fun w => { w with events := w.events ++ [e] }

/-- A computation on the heap that may fail. -/
def onHeap {ε α : Type} (m : EStateM ε Heap α) : EStateM ε LogWorld α :=
  onPart (·.heap) (fun w heap => { w with heap }) m

/-- A computation on the heap. -/
def withHeap {α : Type} (m : StateM Heap α) : StateM LogWorld α := fun w =>
  let (a, heap) := m w.heap
  (a, { w with heap })

/-- The native allocator, as the host reaches it. -/
def allocator : Allocator LogWorld :=
  Host.nativeEntries.allocator.onPart (·.heap) fun w heap => { w with heap }

end LogWorld

/-- The entry points of loggers. -/
structure LoggerEntries where
  log : Handle → Buffer → Status → StateM LogWorld Status
  free : Handle → StateM LogWorld Unit

/-! ### On the host side -/

/-- Calls the logger of a handle with a message.  Without such a logger, or if the message makes no
sense, the call panics without a text. -/
def callLogger (h : Handle) (message : Buffer) : StateM LogWorld LogReply := do
  match ← attempt (schema.lift LogWorld.allocator .text message), (← get).loggers.get h with
  | .ok m, .ok logger =>
    let reply := logger.reply ((← get).received h) m.asText
    LogWorld.note (.called h m.asText reply.accepts)
    return reply
  | _, _ => return .panic none

/-- What a reply leaves in the status. -/
def LogReply.report (r : LogReply) (s : Status) : StateM LogWorld Status := do
  let answer (o : Host.CallbackOutcome Unit) : StateM LogWorld Status :=
    Prod.snd <$> Host.answer LogWorld.allocator () o s
  match r with
  | accept => answer (.returned ())
  | reject reason => answer (.failed (LogRejection.toValue ⟨reason⟩))
  | panic text => answer (.panicked text)
  | leave s => return s

/-- The host's entry points of loggers. -/
def hostLogger : LoggerEntries where
  log h message s := do (← callLogger h message).report s
  free h := do
    LogWorld.note (.released h)
    modify fun w => { w with loggers := w.loggers.release h }

/-! ### On the native side -/

/-- Sends messages to a logger, and counts those it accepts before the first it does not. -/
def deliver (E : LoggerEntries) (h : Handle) : List Value → EStateM Fault LogWorld Nat
  | [] => return 0
  | m :: ms => do
    let s ← E.log h (← LogWorld.onHeap (lowerReturn m)) {}
    match ← LogWorld.withHeap (checkForeign schema LogRejection.type s) with
    | .ok () => return (← deliver E h ms) + 1
    | .error f => LogWorld.onHeap <|
      match f with
      | .domain e => match LogRejection.ofValue? e with
        | some e => do throw (.domain (← lowerReturn (SampleError.rejected e.reason).toValue))
        | none => f.raise
      | .unexpected _ => f.raise

/-- Sends lowered messages to the logger of a handle, and counts them. -/
def emitLogs (table : CallbackTable LoggerEntries) (h : Handle) (messages : Buffer) :
    EStateM Fault LogWorld Nat := do
  let E ← ofExcept table.get
  let outcome ← attempt do
    let ms ← LogWorld.onHeap (liftArgument schema "messages" (.sequence .text) messages)
    deliver E h ms.items
  E.free h
  ofExcept outcome

/-- The entry point of `emitLogs`. -/
def emitLogsEntry (table : CallbackTable LoggerEntries) (h : Handle) (messages : Buffer)
    (s : Status) : StateM LogWorld (Lowered × Status) := do
  let outcome ← attempt (emitLogs table h messages)
  LogWorld.withHeap <|
    run (Category.scalar .u32).zero (do return .scalar ⟨.u32, .ofNat _ (← ofExcept outcome)⟩) s

end CallBoundary.Sample
