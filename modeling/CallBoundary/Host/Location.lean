import CallBoundary.Host.Library
import CallBoundary.Text.Uppercase

/-!
# Where a library lies

A library is opened by path: its file in the directory that is named, or by its file name alone,
which leaves the search to the loader.  A variable of the environment, named after the namespace,
overrides both.
-/

namespace CallBoundary.Host

/-- How a library is found. -/
structure Location where
  ns : String
  library : String
  directory : Option String := none
deriving DecidableEq, Repr

namespace Location

/-- The name of the variable that overrides the path. -/
def overrideVariable (l : Location) : String := Text.uppercase l.ns ++ "_LIBRARY_OVERRIDE"

/-- The name of the library's file. -/
def fileName (l : Location) : String := "lib" ++ l.library ++ ".so"

/-- The path of a file in a directory. -/
def inDirectory (directory file : String) : String :=
  if directory = "" ∨ directory.endsWith "/" then directory ++ file else directory ++ "/" ++ file

/-- The path to open, given the value of the overriding variable.  An empty value counts for
none. -/
def path (l : Location) (override : Option String) : String :=
  match override.filter (· ≠ ""), l.directory with
  | some p, _ => p
  | none, some d => inDirectory d l.fileName
  | none, none => l.fileName

/-- Opens the library with a loader, which says why it fails. -/
def load (l : Location) (override : Option String) (loader : String → Except String SymbolTable) :
    Except StartupError SymbolTable :=
  (loader (l.path override)).mapError (.notLoaded (l.path override))

end Location

end CallBoundary.Host
