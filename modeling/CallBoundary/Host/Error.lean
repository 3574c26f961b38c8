import CallBoundary.Call.Status
import CallBoundary.Wire.Value

/-!
# Errors on the host side

Three tiers.  A declared error of a call is for the caller to handle.  An `InternalError` says that
the two sides disagree, or that a rule about lifetimes was broken.  A `StartupError` says that a
library does not fit its bindings, so that nothing may be called.

A function that raises gives its caller declared errors only, and leaves with any other.
-/

namespace CallBoundary.Host

/-- Something is wrong between the two sides. -/
inductive InternalError where
  | wire (e : WireError)
  /-- The native side panicked. -/
  | panic (message : String)
  | panicWithoutMessage
  | unknownStatus (code : Int8)
  /-- An error came from a call that declares none. -/
  | undeclaredError
  /-- A buffer entry point failed. -/
  | bufferEntry (message : String)
  | missingHandle (h : Handle)
  | unknownPoll (code : Int8)
  | missingSymbol (name : String)
deriving DecidableEq, Repr

/-- The wording of an internal error. -/
def InternalError.message : InternalError → String
  | wire e => s!"Protocol error: {e.message}"
  | panic m => s!"Native panic: {m}"
  | panicWithoutMessage => "Native panic without a message"
  | unknownStatus c => s!"Unknown call status code: {c.toInt}"
  | undeclaredError => "Native call reported an error but declares no error type"
  | bufferEntry m => s!"Buffer lifecycle call failed: {m}"
  | missingHandle h => s!"No entry for handle {h.toNat}"
  | unknownPoll c => s!"Unknown poll result: {c.toInt}"
  | missingSymbol name => s!"Symbol not found: {name}"

/-- A library does not fit its bindings. -/
inductive StartupError where
  | notLoaded (path reason : String)
  | missingSymbol (name : String)
  | wrongVersion (expected actual : UInt32)
  | wrongChecksum (function : String) (expected actual : UInt16)
deriving DecidableEq, Repr

/-- The wording of a startup error. -/
def StartupError.message : StartupError → String
  | notLoaded path reason => s!"Failed to load native library {path}: {reason}"
  | missingSymbol name => s!"Native library is missing symbol {name}"
  | wrongVersion e a =>
    s!"Contract version mismatch: bindings expect {e.toNat}, library provides {a.toNat}"
  | wrongChecksum f e a =>
    s!"Checksum mismatch for {f}: bindings expect {e.toNat}, library provides {a.toNat}"

/-- Why a call gives no value: with an error that it declares, or otherwise. -/
inductive CallError where
  | domain (error : Value)
  | internal (e : InternalError)
deriving DecidableEq, Repr

/-- How a function that raises ends. -/
inductive Raising (α : Type) where
  | returned (a : α)
  | declared (error : Value)
  | raised (e : InternalError)
deriving Repr

/-- What becomes of a call when internal errors are raised. -/
def Raising.ofExcept : Except CallError α → Raising α
  | .ok a => .returned a
  | .error (.domain e) => .declared e
  | .error (.internal e) => .raised e

/-- What becomes of a result when its error is raised. -/
def Raising.ofInternal : Except InternalError α → Raising α
  | .ok a => .returned a
  | .error e => .raised e

end CallBoundary.Host
