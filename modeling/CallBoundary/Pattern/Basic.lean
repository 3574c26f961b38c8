import CallBoundary.Text.Alphabetic

/-!
# Patterns

A pattern is a regular expression that a value has to match.  Here it is a tree, with as much in it
as it takes to tell whether the pattern can be used; which letters a class names, how often
something is repeated and what a group is called make no difference to that.

A pattern can be used if it is not nested too deeply and asks for nothing that would need tables of
all characters.  Where the flag `u` is on, these are shorthands such as `\d`, word boundaries, and
letters without regard to case.  Where it is off, all of them mean ASCII and can be used; but bytes
are matched there instead of characters, and since no character may be matched in part, whatever can
match a byte outside ASCII is refused.
-/

namespace CallBoundary.Pattern

/-- What a flag switches. -/
inductive Flag where
  | caseless | multiLine | dotAll | swapGreed | unicode | carriageReturn | spaced
deriving DecidableEq, Repr

/-- The flag of a letter. -/
def Flag.ofChar? : Char → Option Flag
  | 'i' => some .caseless
  | 'm' => some .multiLine
  | 's' => some .dotAll
  | 'U' => some .swapGreed
  | 'u' => some .unicode
  | 'R' => some .carriageReturn
  | 'x' => some .spaced
  | _ => none

/-- Flags with the side that each is switched to. -/
abbrev Switches := List (Flag × Bool)

/-- A character that stands for itself. -/
structure Literal where
  char : Char
  /-- Whether it is written as a byte, by two hexadecimal digits. -/
  asByte : Bool := false
deriving DecidableEq, Repr

/-- What a class between brackets is made of. -/
inductive ClassPart where
  | literal (l : Literal)
  | range (first last : Literal)
  /-- An ASCII class with a name, such as `[:digit:]`. -/
  | named (negated : Bool)
  /-- A class with a letter, such as `\d`. -/
  | shorthand (negated : Bool)
  | nested (negated : Bool) (p : ClassPart)
  | union (ps : List ClassPart)
  /-- What two classes have in common, or do not. -/
  | combined (l r : ClassPart)

/-- A pattern or a part of one. -/
inductive Node where
  | empty
  | literal (l : Literal)
  | anyChar
  | anchor
  | wordBoundary
  | shorthand (negated : Bool)
  | bracketed (negated : Bool) (p : ClassPart)
  /-- Flags for the rest of the group. -/
  | switches (s : Switches)
  | repeated (n : Node)
  | group (s : Switches) (n : Node)
  | concat (ns : List Node)
  | alternation (ns : List Node)

/-! ### Depth -/

mutual
/-- How deeply the parts of a class are nested. -/
def ClassPart.depth : ClassPart → Nat
  | .literal _ | .range .. | .named _ | .shorthand _ | .union [] => 0
  | .nested _ p => 1 + p.depth
  | .union (p :: ps) => 1 + max p.depth (ClassPart.maxDepth ps)
  | .combined l r => 1 + max l.depth r.depth
/-- The largest depth among some parts of a class. -/
def ClassPart.maxDepth : List ClassPart → Nat
  | [] => 0
  | p :: ps => max p.depth (ClassPart.maxDepth ps)
end

mutual
/-- How deeply the parts of a pattern are nested. -/
def Node.depth : Node → Nat
  | .empty | .literal _ | .anyChar | .anchor | .wordBoundary | .shorthand _ | .switches _ => 0
  | .bracketed _ p => 1 + p.depth
  | .repeated n | .group _ n => 1 + n.depth
  | .concat ns | .alternation ns => 1 + Node.maxDepth ns
/-- The largest depth among some parts. -/
def Node.maxDepth : List Node → Nat
  | [] => 0
  | n :: ns => max n.depth (Node.maxDepth ns)
end

/-! ### Use -/

/-- The flags that decide what can be used. -/
structure Mode where
  caseless : Bool := false
  unicode : Bool := true
deriving DecidableEq, Repr

/-- The flags after some were switched. -/
def Mode.switch (m : Mode) : Switches → Mode
  | [] => m
  | (.caseless, on) :: s => { m with caseless := on }.switch s
  | (.unicode, on) :: s => { m with unicode := on }.switch s
  | _ :: s => m.switch s

/-- Whether a character is ASCII. -/
def Literal.isAscii (l : Literal) : Bool := l.char.toNat < 0x80

/-- Whether a character outside classes can be used. -/
def Literal.usable (m : Mode) (l : Literal) : Bool :=
  if m.unicode then !m.caseless else !l.asByte || l.isAscii

mutual
/-- Whether a part of a class can be used. -/
def ClassPart.usable (m : Mode) : ClassPart → Bool
  | .literal l => if m.unicode then !m.caseless else l.isAscii
  | .range a b => if m.unicode then !m.caseless else a.isAscii && b.isAscii
  | .named negated => if m.unicode then !m.caseless else !negated
  | .shorthand negated => !m.unicode && !negated
  | .nested negated p => (m.unicode || !negated) && p.usable m
  | .union ps => ClassPart.allUsable m ps
  | .combined l r => l.usable m && r.usable m
/-- Whether some parts of a class can be used. -/
def ClassPart.allUsable (m : Mode) : List ClassPart → Bool
  | [] => true
  | p :: ps => p.usable m && ClassPart.allUsable m ps
end

mutual
/-- The flags behind a part, if it can be used. -/
def Node.modeAfter (m : Mode) : Node → Option Mode
  | .empty | .anchor => some m
  | .literal l => if l.usable m then some m else none
  | .anyChar => if m.unicode then some m else none
  | .wordBoundary => if m.unicode then none else some m
  | .shorthand negated => if !m.unicode && !negated then some m else none
  | .bracketed negated p => if (ClassPart.nested negated p).usable m then some m else none
  | .switches s => some (m.switch s)
  | .repeated n => n.modeAfter m
  | .group s n => (n.modeAfter (m.switch s)).map fun _ => m
  | .concat ns | .alternation ns => Node.modeAfterAll m ns
/-- The flags behind some parts, if they can be used. -/
def Node.modeAfterAll (m : Mode) : List Node → Option Mode
  | [] => some m
  | n :: ns => do Node.modeAfterAll (← n.modeAfter m) ns
end

/-- How deeply a pattern may be nested. -/
def depthLimit : Nat := 250

/-- Whether a pattern can be used. -/
def Node.usable (n : Node) : Bool := n.depth ≤ depthLimit && (n.modeAfter {}).isSome

end CallBoundary.Pattern
