import CallBoundary.Wire.Schema

/-!
# Types as text

How a type is written in a signature: scalars and named types by name, `optional<T>`,
`sequence<T>`, `map<K,V>`.  `WireType.ofSpelling?` reads what `WireType.spelling` writes.
-/

namespace CallBoundary.WireType

/-- A type as it is written. -/
def spelling : WireType → String
  | unit => "unit"
  | bool => "bool"
  | scalar t => t.name
  | text => "string"
  | bytes => "bytes"
  | optional t => "optional<" ++ t.spelling ++ ">"
  | sequence t => "sequence<" ++ t.spelling ++ ">"
  | map k v => "map<" ++ k.spelling ++ "," ++ v.spelling ++ ">"
  | named n => if n = neverName then "never" else n

/-- The type that a single word stands for. -/
def ofWord (s : String) : WireType :=
  match ScalarType.ofName? s with
  | some t => .scalar t
  | none => match s with
    | "unit" => .unit
    | "bool" => .bool
    | "string" => .text
    | "bytes" => .bytes
    | "never" => .never
    | _ => .named s

/-- Whether a character may stand in a word. -/
def inWord (c : Char) : Bool := c ≠ '<' && c ≠ '>' && c ≠ ','

/-- A type at the front of a text, and what follows it, for types nested less deep than `depth`. -/
def atFront : (depth : Nat) → List Char → Option (WireType × List Char)
  | 0, _ => none
  | d + 1, cs =>
    match String.ofList (cs.takeWhile inWord), cs.dropWhile inWord with
    | "optional", '<' :: cs => do
      let (t, cs) ← closed (← atFront d cs)
      return (.optional t, cs)
    | "sequence", '<' :: cs => do
      let (t, cs) ← closed (← atFront d cs)
      return (.sequence t, cs)
    | "map", '<' :: cs => do
      match ← atFront d cs with
      | (k, ',' :: cs) =>
        let (v, cs) ← closed (← atFront d cs)
        return (.map k v, cs)
      | _ => none
    | word, cs => some (ofWord word, cs)
where
  /-- What was read, if a closing bracket follows it. -/
  closed : WireType × List Char → Option (WireType × List Char)
    | (t, '>' :: cs) => some (t, cs)
    | _ => none

/-- The type that a text spells. -/
def ofSpelling? (s : String) : Option WireType :=
  match atFront (s.length + 1) s.toList with
  | some (t, []) => some t
  | _ => none

end CallBoundary.WireType
