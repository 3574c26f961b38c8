import CallBoundary.Native.Call
import CallBoundary.Sample.Types

/-!
# The functions of the sample library

First the functions by themselves, on ordinary values; then the native entry points around them,
which take their arguments out of buffers and put their results into buffers.  An entry point takes
all its arguments before it reports that one of them makes no sense.
-/

namespace CallBoundary.Sample

/-! ### The functions -/

/-- A greeting. -/
def greeting (name : String) : String := s!"Hello, {name}!"

/-- The quotient, unless the divisor is a zero of either sign. -/
def quotient (a b : Float) : Except SampleError Float :=
  if b == 0 then .error .divisionByZero else .ok (a / b)

/-- What a map of texts holds for a key. -/
def find (entries : List (Value × Value)) (key : String) : Except SampleError String :=
  match Value.lookup (.text key) entries with
  | some v => .ok v.asText
  | none => .error (.notFound key)

/-- The sum, if it is a number of the same type. -/
def sum (t : ScalarType) (a b : BitVec t.bits) : Except String (BitVec t.bits) :=
  let n := (Scalar.mk t a).toInt + (Scalar.mk t b).toInt
  let s := BitVec.ofInt t.bits n
  if (Scalar.mk t s).toInt = n then .ok s
  else .error s!"{(Scalar.mk t a).toInt} + {(Scalar.mk t b).toInt} overflows {t.name}"

/-! ### Their entry points -/

open Native

/-- Takes a text argument out of its buffer. -/
def liftText (name : String) (b : Buffer) : Body String :=
  Value.asText <$> liftArgument schema name .text b

/-- The result of a function that may return a declared error, in its scalar. -/
def lowerQuotient (a b : BitVec 64) : Body Lowered := do
  match quotient (.ofBits ⟨a⟩) (.ofBits ⟨b⟩) with
  | .ok q => return .scalar ⟨.f64, q.toBits.toBitVec⟩
  | .error e => throw (.domain (← lowerReturn e.toValue))

/-- The sum, whose overflow is a fault. -/
def addEntry (t : ScalarType) (a b : BitVec t.bits) : Body Lowered :=
  match sum t a b with
  | .ok s => return .scalar ⟨t, s⟩
  | .error m => throw (.internal m)

/-- The greeting of a lowered name. -/
def greetEntry (name : Buffer) : Body Lowered := do
  let name ← liftText "name" name
  return .buffer (← lowerReturn (.text (greeting name)))

/-- Returns its argument, a value of some type. -/
def echoEntry (argument : String) (t : WireType) (b : Buffer) : Body Lowered := do
  let v ← liftArgument schema argument t b
  return .buffer (← lowerReturn v)

/-- Looks a lowered key up in a lowered map. -/
def lookupEntry (entries key : Buffer) : Body Lowered := do
  let entries ← attempt (liftArgument schema "entries" (.map .text .text) entries)
  let key ← attempt (liftText "key" key)
  let entries ← ofExcept entries
  let key ← ofExcept key
  match find entries.entries key with
  | .ok s => return .buffer (← lowerReturn (.text s))
  | .error e => throw (.domain (← lowerReturn e.toValue))

/-- Panics with a lowered message. -/
def failHardEntry (message : Buffer) : Body Lowered := do
  let message ← liftText "message" message
  throw (.panic (some message))

/-- Panics with something that is no text. -/
def failWithoutMessageEntry : Body Lowered := throw (.panic none)

/-- The synchronous functions without host objects, by name, on lowered arguments. -/
def entryOf : String → List Lowered → Option (Body Lowered)
  | "fail_without_message", [] => failWithoutMessageEntry
  | "add", [.scalar ⟨.i32, a⟩, .scalar ⟨.i32, b⟩] => addEntry .i32 a b
  | "greet", [.buffer b] => greetEntry b
  | "echo_activity", [.buffer b] => echoEntry "activity" (.named "Activity") b
  | "echo_activities", [.buffer b] => echoEntry "activities" (.sequence (.named "Activity")) b
  | "echo_state", [.buffer b] => echoEntry "state" (.named "PaymentState") b
  | "echo_network", [.buffer b] => echoEntry "network" (.named "Network") b
  | "echo_bytes", [.buffer b] => echoEntry "bytes" .bytes b
  | "divide", [.scalar ⟨.f64, a⟩, .scalar ⟨.f64, b⟩] => lowerQuotient a b
  | "lookup", [.buffer entries, .buffer key] => lookupEntry entries key
  | "fail_hard", [.buffer b] => failHardEntry b
  | _, _ => none

end CallBoundary.Sample
