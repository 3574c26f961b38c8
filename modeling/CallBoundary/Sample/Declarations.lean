import CallBoundary.Contract.Declaration
import CallBoundary.Host.Manifest
import CallBoundary.Sample.Types

/-!
# What the sample library declares

The functions of the sample library with their types, the checksums that follow from them, and the
symbols that the library exports.
-/

namespace CallBoundary.Sample

/-- The sample library's namespace. -/
def ns : String := "fixture"

/-- The interface of the host objects that messages are logged to. -/
def loggerInterface : String := "logger"

/-- The functions of the sample library. -/
def declarations : List Declaration :=
  let activity : WireType := .named "Activity"
  let state : WireType := .named "PaymentState"
  let network : WireType := .named "Network"
  let i32 : WireType := .scalar .i32
  let u32 : WireType := .scalar .u32
  let u64 : WireType := .scalar .u64
  let f64 : WireType := .scalar .f64
  [ { name := "add", parameters := [.value i32, .value i32], result := i32 },
    { name := "greet", parameters := [.value .text], result := .text },
    { name := "echo_activity", parameters := [.value activity], result := activity },
    { name := "echo_activities", parameters := [.value (.sequence activity)],
      result := .sequence activity },
    { name := "echo_state", parameters := [.value state], result := state },
    { name := "echo_network", parameters := [.value network], result := network },
    { name := "echo_bytes", parameters := [.value .bytes], result := .bytes },
    { name := "divide", parameters := [.value f64, .value f64], result := f64,
      error := SampleError.type },
    { name := "lookup", parameters := [.value (.map .text .text), .value .text], result := .text,
      error := SampleError.type },
    { name := "fail_hard", parameters := [.value .text] },
    { name := "fail_without_message" },
    { name := "emit_logs", parameters := [.object "Logger", .value (.sequence .text)],
      result := u32, error := SampleError.type },
    { name := "delayed_greet", parameters := [.value .text, .value u64], result := .text,
      awaited := true },
    { name := "delayed_add", parameters := [.value u32, .value u32, .value u64], result := u32,
      awaited := true },
    { name := "checked_divide_later", parameters := [.value f64, .value f64], result := f64,
      error := SampleError.type, awaited := true },
    { name := "wait_forever", awaited := true },
    { name := "panic_later", parameters := [.value .text], awaited := true } ]

/-- The declaration of a function. -/
def declaration? (name : String) : Option Declaration := declarations.find? (·.name = name)

/-- The checksums of the functions. -/
def checksums : List (String × UInt16) := declarations.map fun d => (d.name, d.checksum)

/-- The symbols that the sample library exports if it is built for a contract version. -/
def symbols (version : UInt32) : Host.SymbolTable :=
  (Host.SymbolTable.exporting ns version checksums).insert
    (Symbol.name ns (.callbacks loggerInterface)) (some 0)

/-- What the bindings of the sample library expect. -/
def manifest : Host.Manifest := { ns, checksums }

end CallBoundary.Sample
