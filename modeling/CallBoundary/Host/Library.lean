import CallBoundary.Buffer.Heap
import CallBoundary.Contract.Signature
import CallBoundary.Contract.SymbolName
import CallBoundary.Host.Error
import CallBoundary.Text.Quoted

/-!
# Native libraries

A library is found by name in a symbol table.  `Library.load` looks for everything that any library
has to export and names the first symbol that is missing; a symbol with a null address is missing.
Functions and checksums are looked for when they are needed.

A look at a library before it may be used is an `Inspection`: it ends with what was looked for or with
the reason why the library does not fit, and notes all that was done to find out.
-/

namespace CallBoundary.Host

/-- What is done with a library before it may be used. -/
inductive LibraryEvent where
  /-- It is opened. -/
  | opened
  /-- A symbol is looked for. -/
  | sought (name : String)
  /-- A symbol is called. -/
  | called (name : String)
deriving DecidableEq, Repr

/-- A look at a library. -/
abbrev Inspection := EStateM StartupError (List LibraryEvent)

namespace Inspection

/-- Notes what is done. -/
def note (e : LibraryEvent) : Inspection Unit := modify (· ++ [e])

/-- What a look at a library finds. -/
def verdict (i : Inspection α) : Except StartupError α := (attempt i []).1

end Inspection

/-- The exported symbols by name.  An address is null, or answers with a number when it is called
without arguments. -/
abbrev SymbolTable := List (String × Option UInt32)

namespace SymbolTable

/-- The table with a symbol, in place of any other of the name. -/
def insert (t : SymbolTable) (name : String) (address : Option UInt32) : SymbolTable :=
  t.filter (·.1 != name) ++ [(name, address)]

/-- The table without a symbol. -/
def erase (t : SymbolTable) (name : String) : SymbolTable := t.filter (·.1 != name)

/-- What a symbol answers, if it is there and not null. -/
def resolve (t : SymbolTable) (name : String) : Option UInt32 := (t.lookup name).join

/-- Looks for a symbol that has to be there. -/
def require (t : SymbolTable) (name : String) : Inspection UInt32 := do
  Inspection.note (.sought name)
  match t.resolve name with
  | some a => return a
  | none => throw (.missingSymbol name)

/-- The table of a library that answers with a contract version and exports functions with these
checksums. -/
def exporting (ns : String) (version : UInt32) (functions : List (String × UInt16)) : SymbolTable :=
  let required := Symbol.required.map fun s =>
    (s.name ns, some (if s = .contractVersion then version else 0))
  functions.foldl (fun t f =>
    (t.insert (Symbol.name ns (.checksum f.1)) (some f.2.toUInt32)).insert
      (Symbol.name ns (.function f.1)) (some 0)) required

end SymbolTable

/-- A library that exports all that it has to. -/
structure Library where
  ns : String
  symbols : SymbolTable
deriving DecidableEq, Repr

namespace Library

/-- What a symbol of the library answers. -/
def resolve (l : Library) (s : Symbol) : Option UInt32 := l.symbols.resolve (s.name l.ns)

/-- The library in a symbol table, unless a symbol is missing. -/
def load (symbols : SymbolTable) (ns : String) : Inspection Library := do
  Symbol.required.forM fun s => discard (symbols.require (s.name ns))
  return ⟨ns, symbols⟩

/-- The contract version that the library answers with. -/
def contractVersion (l : Library) : UInt32 := (l.resolve .contractVersion).getD 0

/-- Asks the library for its contract version. -/
def askVersion (l : Library) : Inspection UInt32 := do
  Inspection.note (.called (Symbol.name l.ns .contractVersion))
  return l.contractVersion

/-- Asks the library for the checksum of a function. -/
def askChecksum (l : Library) (function : String) : Inspection UInt16 := do
  let name := Symbol.name l.ns (.checksum function)
  let n ← l.symbols.require name
  Inspection.note (.called name)
  return n.toUInt16

/-- The checksum of a function. -/
def checksum (l : Library) (function : String) : Except StartupError UInt16 :=
  (l.askChecksum function).verdict

/-- The address of a symbol of any name. -/
def address (l : Library) (name : String) : Except InternalError UInt32 :=
  match l.symbols.resolve name with
  | some a => .ok a
  | none => .error (.missingSymbol name)

/-- The address of a function. -/
def function (l : Library) (name : String) : Except InternalError UInt32 :=
  l.address (Symbol.name l.ns (.function name))

/-- The library as it is shown in messages. -/
def description (l : Library) : String :=
  "NativeLibrary \x7b namespace: " ++ Text.quoted l.ns ++ ", .. \x7d"

end Library

end CallBoundary.Host
