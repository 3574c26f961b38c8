import CallBoundary.Text.Hidden

/-!
# Quoted text

A text between double quotes.  A quote or backslash stands behind a backslash, the common control
characters have a letter each, and what does not show is named by its number.
-/

namespace CallBoundary.Text

/-- A number in lower-case base 16, without leading zeros. -/
def hexNumber (n : Nat) : List Char := Nat.toDigits 16 n

/-- What a character becomes between quotes. -/
def quoteChar (c : Char) : List Char :=
  match c with
  | '\x00' => ['\\', '0']
  | '\t' => ['\\', 't']
  | '\r' => ['\\', 'r']
  | '\n' => ['\\', 'n']
  | '\\' => ['\\', '\\']
  | '"' => ['\\', '"']
  | c => if hidden.contains c then ['\\', 'u', '\x7b'] ++ hexNumber c.toNat ++ ['\x7d'] else [c]

/-- A text between quotes. -/
def quoted (s : String) : String := .ofList ('"' :: s.toList.flatMap quoteChar ++ ['"'])

end CallBoundary.Text
