import CallBoundary.Host.Library

/-!
# Checking a library against its bindings

The bindings carry a manifest: the namespace, the contract version and the checksum of every
function as the bindings know it.  A library is used only if it agrees.  `LazyLibrary` loads and
checks its library on first use, once, and gives the same answer ever after.
-/

namespace CallBoundary.Host

/-- What bindings expect of a library. -/
structure Manifest where
  ns : String
  version : UInt32 := Signature.contractVersion
  checksums : List (String × UInt16)
deriving DecidableEq, Repr

/-- Whether a library has the expected checksum for a function. -/
def Manifest.checkFunction (l : Library) (f : String × UInt16) : Inspection Unit := do
  let actual ← l.askChecksum f.1
  if actual = f.2 then return else throw (.wrongChecksum f.1 f.2 actual)

/-- Compares a library: the version first, then the functions in order. -/
def Manifest.compare (m : Manifest) (l : Library) : Inspection Unit := do
  let actual ← l.askVersion
  if actual ≠ m.version then throw (.wrongVersion m.version actual)
  m.checksums.forM (checkFunction l)

/-- Whether a library fits. -/
def Manifest.validate (m : Manifest) (l : Library) : Except StartupError Unit :=
  (m.compare l).verdict

/-- The library that a loader finds, if it fits. -/
def Manifest.examine (m : Manifest) (loader : Except StartupError SymbolTable) :
    Inspection Library := do
  let l ← Library.load (← ofExcept loader) m.ns
  m.compare l
  return l

/-- A library that is loaded when it is first asked for. -/
structure LazyLibrary where
  manifest : Manifest
  /-- What the loader finds. -/
  loader : Except StartupError SymbolTable
  /-- The outcome of loading, once it is known. -/
  loaded : Option (Except StartupError Library) := none
  /-- What has been done. -/
  events : List LibraryEvent := []

/-- The library, or the startup error that is raised in its place. -/
inductive Demanded where
  | returned (l : Library)
  | raised (e : StartupError)
deriving DecidableEq, Repr

/-- What becomes of the outcome of loading when startup errors are raised. -/
def Demanded.ofExcept : Except StartupError Library → Demanded
  | .ok l => .returned l
  | .error e => .raised e

namespace LazyLibrary

/-- How often the loader ran. -/
def loads (l : LazyLibrary) : Nat := l.events.count .opened

/-- Loads and checks the library. -/
def load (l : LazyLibrary) : Inspection Library := do
  Inspection.note .opened
  l.manifest.examine l.loader

/-- The library, loaded now if it was not before. -/
def get : StateM LazyLibrary (Except StartupError Library) := fun l =>
  match l.loaded with
  | some r => (r, l)
  | none =>
    let (r, events) := attempt l.load l.events
    (r, { l with loaded := some r, events })

/-- The library for those who cannot do without it. -/
def demand : StateM LazyLibrary Demanded := return .ofExcept (← get)

end LazyLibrary

end CallBoundary.Host
