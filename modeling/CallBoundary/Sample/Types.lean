import CallBoundary.Wire.Value

/-!
# The types of the sample library

`payments` declares what the sample library's functions take and return.  `examples` declares more
types, among them types that contain themselves and a choice whose tags are not in order.
-/

namespace CallBoundary.Sample

/-- The types of the sample library's functions. -/
def payments : String → Shape
  | "Activity" => .record [
      ⟨"id", .text⟩, ⟨"amount_sats", .scalar .u64⟩, ⟨"fee_sats", .optional (.scalar .u64)⟩,
      ⟨"tags", .sequence .text⟩, ⟨"confirmed", .bool⟩]
  | "Network" =>
    .choice [⟨1, "Bitcoin", []⟩, ⟨2, "Testnet", []⟩, ⟨3, "Signet", []⟩, ⟨4, "Regtest", []⟩]
  | "PaymentState" => .choice [
      ⟨1, "Pending", []⟩,
      ⟨2, "Succeeded", [⟨"preimage", .text⟩, ⟨"settled_at", .scalar .u64⟩]⟩,
      ⟨3, "Failed", [⟨"reason", .text⟩]⟩]
  | "FixtureError" => .choice [
      ⟨1, "DivisionByZero", []⟩,
      ⟨2, "NotFound", [⟨"key", .text⟩]⟩,
      ⟨3, "Rejected", [⟨"reason", .text⟩]⟩]
  | "LogError" => .choice [⟨1, "Rejected", [⟨"reason", .text⟩]⟩]
  | _ => .choice []

/-- More types to try the encoding on. -/
def examples : String → Shape
  | "Empty" => .record []
  | "Scalars" => .record [
      ⟨"a", .scalar .u8⟩, ⟨"b", .scalar .i8⟩, ⟨"c", .scalar .u16⟩, ⟨"d", .scalar .i16⟩,
      ⟨"e", .scalar .u32⟩, ⟨"f", .scalar .i32⟩, ⟨"g", .scalar .u64⟩, ⟨"h", .scalar .i64⟩,
      ⟨"i", .scalar .f32⟩, ⟨"j", .scalar .f64⟩, ⟨"k", .bool⟩]
  | "Profile" => .record [
      ⟨"activity", .named "Activity"⟩, ⟨"state", .named "PaymentState"⟩,
      ⟨"network", .optional (.named "Network")⟩, ⟨"meta", .map .text .text⟩, ⟨"blob", .bytes⟩,
      ⟨"grid", .sequence (.sequence (.scalar .i16))⟩]
  | "Tree" => .record [⟨"value", .scalar .i32⟩, ⟨"children", .sequence (.named "Tree")⟩]
  | "TransferError" => .choice [
      ⟨1, "InsufficientFunds", [⟨"missing", .scalar .u64⟩]⟩, ⟨2, "Offline", []⟩]
  | "Shape" => .choice [
      ⟨1, "Dot", []⟩,
      ⟨2, "Circle", [⟨"radius", .scalar .f64⟩]⟩,
      ⟨5, "Poly", [⟨"points", .sequence (.scalar .i32)⟩, ⟨"label", .optional .text⟩]⟩,
      ⟨-3, "Hole", [⟨"inner", .sequence (.named "Shape")⟩, ⟨"unit", .unit⟩]⟩]
  | name => payments name

/-- A profile opens an activity at once; the other records open no record before they take a
byte. -/
def rank : String → Nat
  | "Profile" => 1
  | _ => 0

/-- The declarations of all these types. -/
def schema : Schema where
  shape := examples
  rank := rank
  guarded := by
    intro name fields h f hf
    suffices ∀ f ∈ fields, f.type.level rank ≤ 0 ∨ name = "Profile" ∧ f.type.level rank ≤ 1 by
      rcases this f hf with hl | ⟨rfl, hl⟩
      · exact Nat.le_trans hl (Nat.zero_le _)
      · exact hl
    clear hf f
    unfold examples at h
    split at h <;> (try unfold payments at h; split at h) <;> cases h <;> decide

/-- An error that the sample library's functions declare. -/
inductive SampleError where
  | divisionByZero
  | notFound (key : String)
  | rejected (reason : String)
deriving DecidableEq, Repr

namespace SampleError

/-- The type of these errors. -/
def type : WireType := .named "FixtureError"

/-- An error as a value of its type. -/
def toValue : SampleError → Value
  | divisionByZero => .variant 1 []
  | notFound key => .variant 2 [.text key]
  | rejected reason => .variant 3 [.text reason]

/-- The error that a value of the type stands for. -/
def ofValue? : Value → Option SampleError
  | .variant 1 [] => some divisionByZero
  | .variant 2 [.text key] => some (notFound key)
  | .variant 3 [.text reason] => some (rejected reason)
  | _ => none

theorem ofValue?_toValue (e : SampleError) : ofValue? e.toValue = some e := by cases e <;> rfl

/-- The wording of an error. -/
def message : SampleError → String
  | divisionByZero => "Division by zero"
  | notFound key => s!"Key not found: {key}"
  | rejected reason => s!"Logger rejected a message: {reason}"

end SampleError

/-- The error that a logger declares: it rejects a message for a reason. -/
structure LogRejection where
  reason : String
deriving DecidableEq, Repr

namespace LogRejection

/-- The type of these errors. -/
def type : WireType := .named "LogError"

/-- An error as a value of its type. -/
def toValue (e : LogRejection) : Value := .variant 1 [.text e.reason]

/-- The error that a value of the type stands for. -/
def ofValue? : Value → Option LogRejection
  | .variant 1 [.text reason] => some ⟨reason⟩
  | _ => none

theorem ofValue?_toValue (e : LogRejection) : ofValue? e.toValue = some e := rfl

end LogRejection

end CallBoundary.Sample
