import CallBoundary.Host.OwnedBuffer

/-!
# Reading the status of a call

`checkStatus` reads the status of a call that declares errors of a type, `checkInternalStatus` that
of a call that declares none.  Either gives the status's buffer back if the code says that there is
one, after its message was looked at.
-/

namespace CallBoundary.Host

/-- The error that a panic's message buffer stands for, whose bytes are looked at as told. -/
def panicErrorFrom [Monad m] (look : Buffer → m Bytes) (message : OwnedBuffer) : m InternalError := do
  if message.isEmpty then return .panicWithoutMessage
  return .panic (decodeLossy (← message.look look))

/-- The error that a panic's message buffer stands for. -/
def panicError (message : OwnedBuffer) : InternalError :=
  Id.run (panicErrorFrom (fun b => pure b.contents) message)

theorem panicError_eq (message : OwnedBuffer) : panicError message =
    if message.isEmpty then .panicWithoutMessage else .panic (decodeLossy message.contents) := rfl

theorem panicErrorFrom_pure [Monad m] [LawfulMonad m] (message : OwnedBuffer) :
    panicErrorFrom (fun b => (pure b.contents : m Bytes)) message = pure (panicError message) := by
  rw [panicErrorFrom, OwnedBuffer.look_pure, panicError_eq]
  cases message.isEmpty with
  | true => rfl
  | false => exact pure_bind _ _

/-- Reads the status of a call that declares errors of a type, in a memory. -/
def checkStatusFrom (S : Schema) (M : Memory σ) (errorType : WireType) (s : Status) :
    StateM σ (Except CallError Unit) := do
  let payload := OwnedBuffer.ofBuffer s.payload
  match s.kind? with
  | some .success => return .ok ()
  | some .error =>
    match ← attempt (payload.liftFrom S M errorType) with
    | .ok e => return .error (.domain e)
    | .error e => return .error (.internal (.wire e))
  | some .panic =>
    let e ← panicErrorFrom M.look payload
    payload.drop M.toAllocator
    return .error (.internal e)
  | none => return .error (.internal (.unknownStatus s.code))

/-- Reads the status of a call that declares errors of a type. -/
def checkStatus (S : Schema) (A : Allocator σ) (errorType : WireType) (s : Status) :
    StateM σ (Except CallError Unit) := checkStatusFrom S (.plain A) errorType s

/-- Reads the status of a call that declares no errors, in a memory. -/
def checkInternalStatusFrom (M : Memory σ) (s : Status) : StateM σ (Except InternalError Unit) := do
  let payload := OwnedBuffer.ofBuffer s.payload
  match s.kind? with
  | some .success => return .ok ()
  | some .error =>
    payload.drop M.toAllocator
    return .error .undeclaredError
  | some .panic =>
    let e ← panicErrorFrom M.look payload
    payload.drop M.toAllocator
    return .error e
  | none => return .error (.unknownStatus s.code)

/-- Reads the status of a call that declares no errors. -/
def checkInternalStatus (A : Allocator σ) (s : Status) : StateM σ (Except InternalError Unit) :=
  checkInternalStatusFrom (.plain A) s

section Kinds

variable (S : Schema) (A : Allocator σ) (errorType : WireType) {s : Status}

theorem checkStatus_of_success (said : s.kind? = some .success) :
    checkStatus S A errorType s = pure (.ok ()) := by
  simp only [checkStatus, checkStatusFrom, said]

theorem checkStatus_of_error (said : s.kind? = some .error) : checkStatus S A errorType s = (do
    match ← attempt (S.lift A errorType s.payload) with
    | .ok e => return .error (.domain e)
    | .error e => return .error (.internal (.wire e))) := by
  simp only [checkStatus, checkStatusFrom, said]
  rfl

theorem checkStatus_of_panic (said : s.kind? = some .panic) : checkStatus S A errorType s = (do
    (OwnedBuffer.ofBuffer s.payload).drop A
    return .error (.internal (panicError (.ofBuffer s.payload)))) := by
  have hread : panicErrorFrom (Memory.plain A).look (.ofBuffer s.payload) = _ :=
    panicErrorFrom_pure (.ofBuffer s.payload)
  simp only [checkStatus, checkStatusFrom, said, hread, pure_bind]
  rfl

theorem checkStatus_of_unknown (said : s.kind? = none) :
    checkStatus S A errorType s = pure (.error (.internal (.unknownStatus s.code))) := by
  simp only [checkStatus, checkStatusFrom, said]

theorem checkInternalStatus_of_success (said : s.kind? = some .success) :
    checkInternalStatus A s = pure (.ok ()) := by
  simp only [checkInternalStatus, checkInternalStatusFrom, said]

theorem checkInternalStatus_of_error (said : s.kind? = some .error) : checkInternalStatus A s = (do
    (OwnedBuffer.ofBuffer s.payload).drop A
    return .error .undeclaredError) := by
  simp only [checkInternalStatus, checkInternalStatusFrom, said]
  rfl

theorem checkInternalStatus_of_panic (said : s.kind? = some .panic) : checkInternalStatus A s = (do
    (OwnedBuffer.ofBuffer s.payload).drop A
    return .error (panicError (.ofBuffer s.payload))) := by
  have hread : panicErrorFrom (Memory.plain A).look (.ofBuffer s.payload) = _ :=
    panicErrorFrom_pure (.ofBuffer s.payload)
  simp only [checkInternalStatus, checkInternalStatusFrom, said, hread, pure_bind]
  rfl

theorem checkInternalStatus_of_unknown (said : s.kind? = none) :
    checkInternalStatus A s = pure (.error (.unknownStatus s.code)) := by
  simp only [checkInternalStatus, checkInternalStatusFrom, said]

end Kinds

/-- The value of a call, if its status says that there is one. -/
def returnValue (S : Schema) (A : Allocator σ) (errorType : WireType) (call : α × Status) :
    StateM σ (Except CallError α) := do
  return (← checkStatus S A errorType call.2).map fun _ => call.1

/-- The value of a call that declares no errors, if its status says that there is one. -/
def returnPlainValue (A : Allocator σ) (call : α × Status) : StateM σ (Except InternalError α) := do
  return (← checkInternalStatus A call.2).map fun _ => call.1

end CallBoundary.Host
