import CallBoundary.Contract.Signature
import CallBoundary.Wire.Spelling

/-!
# Declarations

What a function takes, what it returns, which error it declares and whether it is awaited.  The
signature that the checksum is taken of is the declaration written out.
-/

namespace CallBoundary

/-- What a function takes in one place. -/
inductive Parameter where
  | value (t : WireType)
  /-- A host object of an interface, passed by handle. -/
  | object (interface : String)
deriving DecidableEq, Repr

/-- A parameter as it is written in a signature. -/
def Parameter.spelling : Parameter → String
  | value t => t.spelling
  | object i => i

/-- What a function promises. -/
structure Declaration where
  name : String
  parameters : List Parameter := []
  result : WireType := .unit
  /-- The declared error type. -/
  error : Option WireType := none
  awaited : Bool := false
deriving DecidableEq, Repr

namespace Declaration

/-- A declaration written out.  A result without content is not mentioned. -/
def signature (d : Declaration) : String :=
  (if d.awaited then "async " else "") ++ d.name ++
    "(" ++ ",".intercalate (d.parameters.map (·.spelling)) ++ ")" ++
    (if d.result = .unit then "" else "->" ++ d.result.spelling) ++
    (d.error.elim "" fun e => "!" ++ e.spelling)

/-- The checksum of a declaration. -/
def checksum (d : Declaration) : UInt16 := Signature.checksum d.signature

end Declaration

end CallBoundary
