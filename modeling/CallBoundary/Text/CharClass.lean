/-!
# Classes of characters

A class is given by its changes: the code points at which the characters begin to belong to it and
cease to, by turns, in order.
-/

namespace CallBoundary.Text

/-- A class of characters. -/
structure CharClass where
  changes : List Nat
deriving Repr

/-- Whether a character belongs to a class: whether an odd number of changes lies at or below it. -/
def CharClass.contains (k : CharClass) (c : Char) : Bool :=
  (k.changes.takeWhile (· ≤ c.toNat)).length % 2 == 1

/-- The characters of a text without those of a class at either end. -/
def CharClass.trim (k : CharClass) (cs : List Char) : List Char :=
  ((cs.dropWhile k.contains).reverse.dropWhile k.contains).reverse

/-- The characters that part words. -/
def blank : CharClass := ⟨[
    0x9, 0xE, 0x20, 0x21, 0x85, 0x86, 0xA0, 0xA1, 0x1680, 0x1681, 0x2000, 0x200B, 0x2028, 0x202A,
    0x202F, 0x2030, 0x205F, 0x2060, 0x3000, 0x3001]⟩

end CallBoundary.Text
