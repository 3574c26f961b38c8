import CallBoundary.Host.Status

/-!
# Calling a function

Arguments are lowered, the function is called with a fresh status, the status is read, and the
returned value is lifted.  Scalars cross the boundary as they are, everything else in a buffer.
-/

namespace CallBoundary

/-- The category of what crosses the boundary for values of a type. -/
def WireType.category : WireType → Category
  | unit => .void
  | bool => .scalar .i8
  | scalar t => .scalar t
  | _ => .buffer

/-- What crosses the boundary for a value that needs no buffer. -/
def Value.bare : Value → Option Lowered
  | .unit => some .void
  | .bool b => some (.scalar ⟨.i8, if b then 1 else 0⟩)
  | .scalar s => some (.scalar s)
  | _ => none

/-- Lowers a value, into a buffer if it needs one. -/
def Value.lowerWhole (A : Allocator σ) (v : Value) : EStateM WireError σ Lowered := do
  match v.bare with
  | some l => return l
  | none => return .buffer (← v.lower A)

/-- Lifts what crossed the boundary for a value of a type. -/
def Schema.liftWhole (S : Schema) (A : Allocator σ) (t : WireType) :
    Lowered → EStateM WireError σ Value
  | .scalar s => ofExcept <|
    if t = .bool then (Reader.boolOf s.toInt).map .bool else .ok (.scalar s)
  | .buffer b => S.lift A t b
  | .pointer _ | .void => return .unit

/-- Lowers the arguments of a call, one after the other. -/
def lowerArguments (A : Allocator σ) : List Value → EStateM WireError σ (List Lowered)
  | [] => return []
  | v :: vs => do
    let l ← v.lowerWhole A
    return l :: (← lowerArguments A vs)

namespace Host

/-- Calls a function that may declare an error type, and lifts what it returns. -/
def invoke (S : Schema) (A : Allocator σ) (errorType : Option WireType)
    (lift : α → EStateM WireError σ β) (entry : Status → StateM σ (α × Status)) :
    StateM σ (Except CallError β) := do
  let call ← entry {}
  let returned ← match errorType with
    | some e => returnValue S A e call
    | none => (·.mapError .internal) <$> returnPlainValue A call
  match returned with
  | .error e => return .error e
  | .ok a => return (← attempt (lift a)).mapError fun e => .internal (.wire e)

end Host

end CallBoundary
