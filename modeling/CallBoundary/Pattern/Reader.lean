import CallBoundary.Pattern.Basic

/-!
# Reading patterns

`read?` makes a tree of a pattern's text.  A pattern stands between braces, so it holds no closing
brace, and whatever would need one is refused: counted repetitions, escapes in braces and classes by
property.

Where the flag `x` is on, blanks and comments between the parts do not count.
-/

namespace CallBoundary.Pattern

/-! ### Blanks and comments -/

/-- The text behind blanks and comments, at first within a comment or not. -/
def skipBlanks (inComment : Bool) : List Char → List Char
  | [] => []
  | c :: cs =>
    if inComment then skipBlanks (c ≠ '\n') cs
    else if c = '#' then skipBlanks true cs
    else if Text.blank.contains c then skipBlanks false cs
    else c :: cs

/-- The text behind what does not count. -/
def skip (spaced : Bool) (cs : List Char) : List Char := if spaced then skipBlanks false cs else cs

/-- The next character that counts, where a comment counts from its second character on. -/
def peek (spaced : Bool) (cs : List Char) : Option Char :=
  if spaced then
    let behind := cs.dropWhile Text.blank.contains
    let behind := match behind with
      | '#' :: r => r.dropWhile Text.blank.contains
      | _ => behind
    behind.head? <|> cs.head?
  else cs.head?

/-! ### Escapes -/

/-- The number of a hexadecimal digit of either case. -/
def digitValue? (c : Char) : Option Nat := (List.range 16).find? (Nat.digitChar · = c.toLower)

/-- The number that so many hexadecimal digits spell, behind a number read so far. -/
def hexNumber? (spaced : Bool) : Nat → Nat → List Char → Option (Nat × List Char)
  | 0, n, cs => some (n, cs)
  | _ + 1, _, [] => none
  | k + 1, n, c :: cs => do
    let d ← digitValue? c
    hexNumber? spaced k (16 * n + d) (skip spaced cs)

/-- The character that so many hexadecimal digits name. -/
def hexLiteral? (spaced : Bool) (digits : Nat) (cs : List Char) : Option (Node × List Char) := do
  let (n, cs) ← hexNumber? spaced digits 0 (skip spaced cs)
  if n.isValidChar then return (.literal ⟨.ofNat n, digits = 2⟩, cs) else none

/-- Whether a backslash before a character makes it stand for itself. -/
def isEscapable (c : Char) : Bool := c.toNat < 0x80 && !c.isAlphanum && c ≠ '<' && c ≠ '>'

/-- What stands behind a backslash. -/
def escape? (spaced : Bool) : List Char → Option (Node × List Char)
  | [] => none
  | c :: cs =>
    match c with
    | 'x' => hexLiteral? spaced 2 cs
    | 'u' => hexLiteral? spaced 4 cs
    | 'U' => hexLiteral? spaced 8 cs
    | 'd' | 's' | 'w' => some (.shorthand false, cs)
    | 'D' | 'S' | 'W' => some (.shorthand true, cs)
    | 'a' => some (.literal ⟨'\x07', false⟩, cs)
    | 'f' => some (.literal ⟨'\x0c', false⟩, cs)
    | 't' => some (.literal ⟨'\t', false⟩, cs)
    | 'n' => some (.literal ⟨'\n', false⟩, cs)
    | 'r' => some (.literal ⟨'\r', false⟩, cs)
    | 'v' => some (.literal ⟨'\x0b', false⟩, cs)
    | 'A' | 'z' => some (.anchor, cs)
    | 'b' | 'B' | '<' | '>' => some (.wordBoundary, cs)
    | c => if isEscapable c then some (.literal ⟨c, false⟩, cs) else none

/-! ### Classes -/

/-- The names of ASCII classes. -/
def classNames : List String :=
  ["alnum", "alpha", "ascii", "blank", "cntrl", "digit", "graph", "lower", "print", "punct",
    "space", "upper", "word", "xdigit"]

/-- An ASCII class with a name, as it stands between the brackets of another class. -/
def namedClass? : List Char → Option (ClassPart × List Char)
  | '[' :: ':' :: cs =>
    let (negated, cs) := match cs with
      | '^' :: cs => (true, cs)
      | _ => (false, cs)
    match cs.dropWhile (· ≠ ':') with
    | ':' :: ']' :: rest =>
      if classNames.contains (.ofList (cs.takeWhile (· ≠ ':'))) then some (.named negated, rest)
      else none
    | _ => none
  | _ => none

/-- A class whose closing bracket has not been read. -/
structure OpenClass where
  negated : Bool
  /-- What stands before the last operator. -/
  before : Option ClassPart := none
  /-- The parts since then, last first. -/
  parts : List ClassPart := []

namespace OpenClass

/-- The class with one more part. -/
def push (k : OpenClass) (p : ClassPart) : OpenClass := { k with parts := p :: k.parts }

/-- What was read so far. -/
def whole (k : OpenClass) : ClassPart :=
  let last := match k.parts with
    | [p] => p
    | ps => .union ps.reverse
  match k.before with
  | none => last
  | some first => .combined first last

/-- The class behind an operator. -/
def operator (k : OpenClass) : OpenClass := { k with before := some k.whole, parts := [] }

/-- How many dashes come next, blanks aside, and what follows them. -/
def dashes (spaced inComment : Bool) (n : Nat) : List Char → Nat × List Char
  | [] => (n, [])
  | c :: cs =>
    if inComment then dashes spaced (c ≠ '\n') n cs
    else if c = '-' then dashes spaced false (n + 1) cs
    else if spaced ∧ c = '#' then dashes spaced true n cs
    else if spaced ∧ Text.blank.contains c then dashes spaced false n cs
    else (n, c :: cs)

/-- The beginning of a class, behind its bracket.  Dashes there stand for themselves, and so does a
closing bracket. -/
def start (spaced : Bool) (cs : List Char) : OpenClass × List Char :=
  let (negated, cs) := match skip spaced cs with
    | '^' :: cs => (true, cs)
    | cs => (false, cs)
  match dashes spaced false 0 cs with
  | (0, ']' :: cs) => ({ negated, parts := [.literal ⟨']', false⟩] }, cs)
  | (n, cs) => ({ negated, parts := List.replicate n (.literal ⟨'-', false⟩) }, cs)

end OpenClass

/-- A member of a class, which may be the end of a range. -/
def member? (spaced : Bool) : List Char → Option (Node × List Char)
  | [] => none
  | '\\' :: cs => escape? spaced cs
  | c :: cs => some (.literal ⟨c, false⟩, cs)

/-- What stands by itself as a part of a class. -/
def partOf? : Node → Option ClassPart
  | .literal l => some (.literal l)
  | .shorthand negated => some (.shorthand negated)
  | _ => none

/-- A member of a class or a range of characters. -/
def range? (spaced : Bool) (cs : List Char) : Option (ClassPart × List Char) := do
  let (p, cs) ← member? spaced cs
  match skip spaced cs with
  | '-' :: behind =>
    if peek spaced behind = some ']' ∨ peek spaced behind = some '-' then
      return (← partOf? p, '-' :: behind)
    else
      let (q, cs) ← member? spaced (skip spaced behind)
      match p, q with
      | .literal a, .literal b => if a.char ≤ b.char then return (.range a b, cs) else none
      | _, _ => none
  | cs => return (← partOf? p, cs)

/-- The rest of a class within others, innermost first.  Gives the outermost class. -/
def classFrom? (spaced : Bool) (k : OpenClass) (outer : List OpenClass) (cs : List Char) :
    Option (Node × List Char) :=
  let goOn (k : OpenClass) (outer : List OpenClass) (rest : List Char) :=
    if rest.length < cs.length then classFrom? spaced k outer rest else none
  match skip spaced cs with
  | [] => none
  | ']' :: rest => match outer with
    | [] => some (.bracketed k.negated k.whole, rest)
    | o :: outer => goOn (o.push (.nested k.negated k.whole)) outer rest
  | '&' :: '&' :: rest | '-' :: '-' :: rest | '~' :: '~' :: rest => goOn k.operator outer rest
  | '[' :: rest => match namedClass? ('[' :: rest) with
    | some (p, rest) => goOn (k.push p) outer rest
    | none =>
      let (new, rest) := OpenClass.start spaced rest
      goOn new (k :: outer) rest
  | cs => match range? spaced cs with
    | some (p, rest) => goOn (k.push p) outer rest
    | none => none
termination_by cs.length

/-! ### Groups -/

/-- The flags up to the colon or parenthesis behind them. -/
def switches? (s : Switches) (on dangling : Bool) : List Char → Option (Switches × List Char)
  | [] => none
  | c :: cs =>
    if c = ':' ∨ c = ')' then if dangling then none else some (s, c :: cs)
    else if c = '-' then if on then switches? s false true cs else none
    else match Flag.ofChar? c with
      | some f => if s.any (·.1 = f) then none else switches? (s ++ [(f, on)]) on false cs
      | none => none

/-- The name of a group and what follows it. -/
def groupName? (cs : List Char) : Option (List Char × List Char) :=
  let isRest (c : Char) : Bool := ['_', '.', '[', ']'].contains c || Text.alphanumeric.contains c
  match cs.takeWhile (· ≠ '>'), cs.dropWhile (· ≠ '>') with
  | c :: name, _ :: rest =>
    if (c = '_' ∨ Text.isAlphabetic c) ∧ name.all isRest then some (c :: name, rest) else none
  | _, _ => none

/-- How a group begins. -/
inductive Opening where
  | group (s : Switches) (name : Option (List Char))
  /-- It is no group, but flags for the rest of the one around it. -/
  | switches (s : Switches)

/-- The beginning of a group, behind its parenthesis.  What must not follow or precede cannot be
asked for. -/
def opening? : List Char → Option (Opening × List Char)
  | '?' :: '=' :: _ | '?' :: '!' :: _ | '?' :: '<' :: '=' :: _ | '?' :: '<' :: '!' :: _ => none
  | '?' :: 'P' :: '<' :: cs | '?' :: '<' :: cs =>
    (groupName? cs).map fun (name, cs) => (.group [] name, cs)
  | '?' :: cs => match switches? [] true false cs with
    | some ([], ')' :: _) => none
    | some (s, ')' :: cs) => some (.switches s, cs)
    | some (s, _ :: cs) => some (.group s none, cs)
    | _ => none
  | cs => some (.group [] none, cs)

/-! ### The whole -/

/-- A group whose closing parenthesis has not been read, with what stands before it. -/
structure OpenGroup where
  switches : Switches
  /-- Whether blanks counted for nothing before it. -/
  spaced : Bool
  branches : List Node
  parts : List Node

/-- How far a pattern was read. -/
structure Progress where
  spaced : Bool := false
  /-- The names of groups. -/
  names : List (List Char) := []
  /-- The groups around the place, innermost first. -/
  groups : List OpenGroup := []
  /-- The alternatives before this one, last first. -/
  branches : List Node := []
  /-- The parts of this alternative, last first. -/
  parts : List Node := []

namespace Progress

/-- The alternative read last. -/
def branch (p : Progress) : Node :=
  match p.parts with
  | [] => .empty
  | [n] => n
  | ns => .concat ns.reverse

/-- All alternatives. -/
def whole (p : Progress) : Node :=
  match p.branches with
  | [] => p.branch
  | bs => .alternation (p.branch :: bs).reverse

/-- One part more. -/
def push (p : Progress) (n : Node) : Progress := { p with parts := n :: p.parts }

/-- Behind the beginning of a group. -/
def openGroup? (p : Progress) : Opening → Option Progress
  | .switches s =>
    some ({ p with spaced := (s.lookup Flag.spaced).getD p.spaced }.push (.switches s))
  | .group s name =>
    if name.any p.names.contains then none
    else some {
      spaced := (s.lookup Flag.spaced).getD p.spaced
      names := name.toList ++ p.names
      groups := ⟨s, p.spaced, p.branches, p.parts⟩ :: p.groups }

/-- Behind the end of a group. -/
def closeGroup? (p : Progress) : Option Progress :=
  match p.groups with
  | [] => none
  | g :: groups => some {
      spaced := g.spaced, names := p.names, groups, branches := g.branches
      parts := .group g.switches p.whole :: g.parts }

/-- The last part repeated.  Flags cannot be. -/
def repeat? (p : Progress) : Option Progress :=
  match p.parts with
  | [] | .switches _ :: _ => none
  | n :: ns => some { p with parts := .repeated n :: ns }

/-- The next part of a pattern. -/
def step? (p : Progress) : List Char → Option (Progress × List Char)
  | [] => none
  | c :: cs =>
    match c with
    | '(' => do
      let (o, cs) ← opening? (skip p.spaced cs)
      return (← p.openGroup? o, cs)
    | ')' => p.closeGroup?.map (·, cs)
    | '|' => some ({ p with branches := p.branch :: p.branches, parts := [] }, cs)
    | '[' =>
      let (k, cs) := OpenClass.start p.spaced cs
      (classFrom? p.spaced k [] cs).map fun (n, cs) => (p.push n, cs)
    | '?' | '*' | '+' =>
      p.repeat?.map (·, if cs.head? = some '?' then cs.tail else cs)
    | '\x7b' => none
    | '\\' => (escape? p.spaced cs).map fun (n, cs) => (p.push n, cs)
    | '.' => some (p.push .anyChar, cs)
    | '^' | '$' => some (p.push .anchor, cs)
    | c => some (p.push (.literal ⟨c, false⟩), cs)

/-- The rest of a pattern. -/
def finish? (p : Progress) (cs : List Char) : Option Node :=
  match skip p.spaced cs with
  | [] => if p.groups.isEmpty then some p.whole else none
  | next => match p.step? next with
    | some (p, rest) => if rest.length < cs.length then finish? p rest else none
    | none => none
termination_by cs.length

end Progress

/-- The pattern that a text spells. -/
def read? (cs : List Char) : Option Node := ({} : Progress).finish? cs

/-- Whether a text spells a pattern that can be used. -/
def isUsable (cs : List Char) : Bool := (read? cs).any (·.usable)

end CallBoundary.Pattern
