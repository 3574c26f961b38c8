import CallBoundary.Buffer.Basic
import CallBoundary.Contract.SymbolName

/-!
# Call status

Every call carries a status that its callee fills in: a code, and a buffer that holds an encoded
error or a message.  A `Lowered` value is what the call itself returns; when the status reports a
failure it is the zero value of its category.
-/

namespace CallBoundary

/-- A 64-bit name for an object that stays on its own side of the boundary. -/
abbrev Handle := UInt64

/-- What a status code says. -/
inductive StatusCode where
  | success | error | panic
deriving DecidableEq, Repr

namespace StatusCode

/-- The number of a code. -/
def toInt8 : StatusCode → Int8
  | success => 0
  | error => 1
  | panic => 2

/-- The code of a number. -/
def ofInt8? : Int8 → Option StatusCode
  | 0 => some success
  | 1 => some error
  | 2 => some panic
  | _ => none

/-- The name of a code. -/
def name : StatusCode → String
  | success => "Success"
  | error => "Error"
  | panic => "Panic"

theorem ofInt8?_toInt8 (c : StatusCode) : ofInt8? c.toInt8 = some c := by cases c <;> rfl

end StatusCode

/-- How a call ended: a code, which may be none of the known ones, and a buffer. -/
structure Status where
  code : Int8 := 0
  payload : Buffer := .unallocated
deriving DecidableEq, Repr

namespace Status

/-- What the code says, if it is known. -/
def kind? (s : Status) : Option StatusCode := StatusCode.ofInt8? s.code

/-- A value was returned.  The buffer stays as it was. -/
def setSuccess (s : Status) : Status := { s with code := StatusCode.success.toInt8 }

/-- A declared error was returned, encoded in this buffer. -/
def ofError (payload : Buffer) : Status := ⟨StatusCode.error.toInt8, payload⟩

/-- The call broke down, with the message in this buffer. -/
def ofPanic (message : Buffer) : Status := ⟨StatusCode.panic.toInt8, message⟩

end Status

/-- What the native side says about a poll. -/
inductive PollCode where
  | ready | maybeReady
deriving DecidableEq, Repr

namespace PollCode

/-- The number of a poll code. -/
def toInt8 : PollCode → Int8
  | ready => 0
  | maybeReady => 1

/-- The poll code of a number. -/
def ofInt8? : Int8 → Option PollCode
  | 0 => some ready
  | 1 => some maybeReady
  | _ => none

/-- The name of a poll code. -/
def name : PollCode → String
  | ready => "Ready"
  | maybeReady => "MaybeReady"

theorem ofInt8?_toInt8 (c : PollCode) : ofInt8? c.toInt8 = some c := by cases c <;> rfl

end PollCode

/-- What a call returns. -/
inductive Lowered where
  | scalar (s : Scalar)
  | pointer (address : UInt64)
  | buffer (b : Buffer)
  | void
deriving DecidableEq, Repr

/-- What a call of a category returns when it fails. -/
def Category.zero : Category → Lowered
  | scalar t => .scalar (.zero t)
  | pointer => .pointer 0
  | buffer => .buffer .unallocated
  | void => .void

/-- The category of a lowered value. -/
def Lowered.category : Lowered → Category
  | scalar s => .scalar s.type
  | pointer _ => .pointer
  | buffer _ => .buffer
  | void => .void

theorem Category.category_zero (c : Category) : c.zero.category = c := by cases c <;> rfl

end CallBoundary
