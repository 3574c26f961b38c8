import CallBoundary.Pattern.Reader
import CallBoundary.Text.Decimal

/-!
# What is logged

A filter is a list of directives between commas.  A directive names a level, alone or for a target,
a span or some fields of a span: `warn`, `net=debug`, `net[connect{port}]=trace`.  The filter comes
from the configuration, else from the environment; without either, and if the environment makes no
sense, it is the level `info`.

A field may have to be there, or to have a value that is a number or matches a pattern.  A pattern
that cannot be used makes no sense.
-/

namespace CallBoundary.Host

/-- How much is logged. -/
inductive LogLevel where
  | off | error | warn | info | debug | trace
deriving DecidableEq, Repr

namespace LogLevel

/-- All levels, from nothing to everything. -/
def all : List LogLevel := [off, error, warn, info, debug, trace]

/-- The name of a level. -/
def name : LogLevel → String
  | off => "off"
  | error => "error"
  | warn => "warn"
  | info => "info"
  | debug => "debug"
  | trace => "trace"

/-- The place of a level among all. -/
def rank (l : LogLevel) : Nat := all.idxOf l

/-- The level that logs more. -/
def more (a b : LogLevel) : LogLevel := if a.rank < b.rank then b else a

/-- The number that decimal digits spell, perhaps behind a plus sign. -/
def number? (cs : List Char) : Option Nat :=
  let ds := if cs.head? = some '+' then cs.tail else cs
  if ds ≠ [] ∧ ds.all Char.isDigit then
    some (ds.foldl (fun n c => 10 * n + (c.toNat - '0'.toNat)) 0)
  else none

/-- The level that a text names, by its place or by its name in letters of either case. -/
def ofText? (cs : List Char) : Option LogLevel :=
  match number? cs with
  | some n => all[n]?
  | none => all.find? fun l => l.name.toList = cs.map Char.toLower

end LogLevel

/-- A condition on a field of a span: that it is there, or that its value matches. -/
structure FieldFilter where
  name : List Char
  value : Option (List Char)
deriving DecidableEq, Repr

/-- One part of a filter. -/
structure Directive where
  level : LogLevel := .trace
  target : Option (List Char) := none
  span : Option (List Char) := none
  fields : List FieldFilter := []
deriving DecidableEq, Repr

/-- Where the reading of a directive is, and at which place the part being read began. -/
inductive DirectiveState where
  | start
  /-- In a word that is a level or a target. -/
  | word (began : Nat)
  | span (began : Nat)
  | field (began : Nat)
  /-- Behind the fields. -/
  | fields
  /-- Behind the span. -/
  | target
  | level (began : Nat)
deriving DecidableEq, Repr

namespace Directive

/-- A text from a place on, counted in bytes. -/
def behind : Nat → List Char → List Char
  | _, [] => []
  | 0, cs => cs
  | n, c :: cs => behind (n - c.utf8Size) cs

/-- A text up to a place, counted in bytes. -/
def upTo : Nat → List Char → List Char
  | _, [] => []
  | 0, _ => []
  | n, c :: cs => c :: upTo (n - c.utf8Size) cs

/-- The characters from one place up to another. -/
def cut (cs : List Char) (began ended : Nat) : List Char := upTo (ended - began) (behind began cs)

/-- A field's condition as it is written, if it makes sense. -/
def fieldFilter? (cs : List Char) : Option FieldFilter :=
  let isName (c : Char) : Bool := c ≠ '='
  match cs.dropWhile isName with
  | [] => some ⟨cs, none⟩
  | _ :: r =>
    let value := r.takeWhile isName
    if Text.isNumber value || Pattern.isUsable value then some ⟨cs.takeWhile isName, value⟩
    else none

/-- What a character at a place means for the directive `text`. -/
def step (text : List Char) (place : Nat) (c : Char) :
    DirectiveState × Directive → Option (DirectiveState × Directive)
  | (.start, d) =>
    if c = '[' then some (.span (place + 1), d)
    else if c = '-' ∨ c = ':' ∨ c = '_' ∨ Text.alphanumeric.contains c then some (.word place, d)
    else none
  | (.word began, d) =>
    if c = '=' then some (.level (place + 1), { d with target := cut text began place })
    else if c = '[' then some (.span (place + 1), { d with target := cut text began place })
    else some (.word began, d)
  | (.span began, d) =>
    let name := cut text began place
    if c = ']' then some (.target, { d with span := name })
    else if c = '\x7b' then
      some (.field (place + 1), { d with span := if name = [] then none else some name })
    else some (.span began, d)
  | (.field began, d) =>
    if c = '\x7d' then
      match cut text began place with
      | [] => none
      | field => (fieldFilter? field).map fun f => (.fields, { d with fields := d.fields ++ [f] })
    else some (.field began, d)
  | (.fields, d) => if c = ']' then some (.target, d) else none
  | (.target, d) => if c = '=' then some (.level (place + 1), d) else none
  | (.level began, d) => some (.level began, d)

/-- Reads the characters from a place on. -/
def scan (text : List Char) : Nat → List Char → DirectiveState × Directive →
    Option (DirectiveState × Directive)
  | _, [], s => some s
  | place, c :: cs, s => do scan text (place + c.utf8Size) cs (← step text place c s)

/-- The directive at the end of the text. -/
def close (text : List Char) : DirectiveState × Directive → Option Directive
  | (.word began, d) =>
    match behind began text with
    | [] => some d
    | word => match LogLevel.ofText? word with
      | some level => some { d with level }
      | none => some { d with target := some word }
  | (.level began, d) =>
    match behind began text with
    | [] => some d
    | word => (LogLevel.ofText? word).map fun level => { d with level }
  | (.target, d) => some d
  | _ => none

/-- The directive that a text spells.  The blanks around it do not count for its form, but its parts
are cut out of the text as it stands. -/
def ofText? (text : List Char) : Option Directive := do
  close text (← scan text 0 (Text.blank.trim text) (.start, {}))

end Directive

/-- The directives that a text spells.  Nothing may stand between two commas. -/
def directives? (s : String) : Option (List Directive) :=
  ((s.splitToList (· = ',')).filter (· ≠ "")).mapM fun p => Directive.ofText? p.toList

/-- The most that some directives let through.  Where a field's value decides, it is not known yet,
so everything may pass. -/
def maxLevel (ds : List Directive) : LogLevel :=
  if ds.any fun d => d.fields.any (·.value.isSome) then .trace
  else ds.foldl (fun l d => l.more d.level) .off

/-- How logging is set up. -/
structure LoggingConfig where
  level : Option LogLevel := none
  /-- Whether anything is printed. -/
  console : Bool := true
deriving DecidableEq, Repr

/-- Something else receives the log already. -/
inductive LoggingError where
  | alreadyInstalled
deriving DecidableEq, Repr

namespace LoggingConfig

/-- The filter, given the environment's. -/
def filter (c : LoggingConfig) (environment : Option String) : List Directive :=
  match c.level with
  | some level => [{ level }]
  | none => (environment.bind directives?).getD [{ level := .info }]

/-- Sets logging up, which can be done once.  The state says whether it was done. -/
def install (c : LoggingConfig) : StateM Bool (Except LoggingError Unit) := fun installed =>
  if c.console then
    (if installed then .error .alreadyInstalled else .ok (), true)
  else (.ok (), installed)

end LoggingConfig

/-- Sets logging to the console up, with a level. -/
def installConsole (level : LogLevel) : StateM Bool (Except LoggingError Unit) :=
  LoggingConfig.install { level }

end CallBoundary.Host
