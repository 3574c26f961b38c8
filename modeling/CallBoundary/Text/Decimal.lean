import CallBoundary.Text.CharClass

/-!
# Texts of numbers

A number is a sign or none, digits with perhaps a point among them or at either end, and perhaps an
exponent; or it is one of the words for what is not finite, in letters of either case.
-/

namespace CallBoundary.Text

/-- A text without a sign in front. -/
def unsigned (cs : List Char) : List Char :=
  match cs with
  | '+' :: r | '-' :: r => r
  | _ => cs

/-- Whether a text is nothing or an exponent. -/
def isExponent : List Char → Bool
  | [] => true
  | c :: cs => (c = 'e' || c = 'E') && unsigned cs ≠ [] && (unsigned cs).all Char.isDigit

/-- Whether a text without a sign is a finite number. -/
def isFinite (cs : List Char) : Bool :=
  let rest := cs.dropWhile Char.isDigit
  match rest with
  | '.' :: r =>
    (cs.takeWhile Char.isDigit ≠ [] || r.takeWhile Char.isDigit ≠ []) &&
      isExponent (r.dropWhile Char.isDigit)
  | _ => cs.takeWhile Char.isDigit ≠ [] && isExponent rest

/-- Whether a text is a number. -/
def isNumber (cs : List Char) : Bool :=
  isFinite (unsigned cs) ||
    ["inf", "infinity", "nan"].contains (.ofList ((unsigned cs).map Char.toLower))

end CallBoundary.Text
