import CallBoundary.Wire.Scalar

/-!
# Names of exported symbols

What a native library exports under which name, in its namespace: the four entry points of the
buffers, the contract version, four entry points for the futures of each category of results, and
for each function itself and its checksum.
-/

namespace CallBoundary

/-- What kind of result an entry point returns. -/
inductive Category where
  | scalar (t : ScalarType)
  | pointer
  | buffer
  | void
deriving DecidableEq, Repr

namespace Category

/-- The categories in the order in which a library lists them. -/
def all : List Category := ScalarType.all.map scalar ++ [pointer, buffer, void]

/-- The ending of the names of a category's symbols. -/
def suffix : Category → String
  | scalar t => t.name
  | pointer => "pointer"
  | buffer => "rust_buffer"
  | void => "void"

/-- The category whose symbols' names have this ending. -/
def ofSuffix? (s : String) : Option Category := all.find? (·.suffix = s)

end Category

/-- The entry points of the buffers. -/
inductive BufferEntry where
  | alloc | fromBytes | free | reserve
deriving DecidableEq, Repr

/-- The entry points of a future. -/
inductive FutureEntry where
  | poll | cancel | complete | free
deriving DecidableEq, Repr

/-- What a library exports. -/
inductive Symbol where
  | buffer (entry : BufferEntry)
  | contractVersion
  | future (entry : FutureEntry) (category : Category)
  | function (name : String)
  | checksum (function : String)
  | callbacks (interface : String)
deriving DecidableEq, Repr

/-- The middle of the name of a buffer entry point. -/
def BufferEntry.word : BufferEntry → String
  | alloc => "alloc"
  | fromBytes => "from_bytes"
  | free => "free"
  | reserve => "reserve"

/-- The middle of the name of a future's entry point. -/
def FutureEntry.word : FutureEntry → String
  | poll => "poll"
  | cancel => "cancel"
  | complete => "complete"
  | free => "free"

/-- The name under which a library exports a symbol. -/
def Symbol.name (ns : String) : Symbol → String
  | buffer e => s!"ffi_{ns}_rustbuffer_{e.word}"
  | contractVersion => s!"ffi_{ns}_uniffi_contract_version"
  | future e c => s!"ffi_{ns}_rust_future_{e.word}_{c.suffix}"
  | function f => s!"uniffi_{ns}_fn_func_{f}"
  | checksum f => s!"uniffi_{ns}_checksum_func_{f}"
  | callbacks i => s!"uniffi_{ns}_fn_init_callback_vtable_{i}"

/-- What a library has to export to be usable at all, in the order in which it is looked for. -/
def Symbol.required : List Symbol :=
  [.buffer .alloc, .buffer .fromBytes, .buffer .free, .buffer .reserve, .contractVersion] ++
    Category.all.flatMap fun c =>
      [.future .poll c, .future .cancel c, .future .complete c, .future .free c]

end CallBoundary
