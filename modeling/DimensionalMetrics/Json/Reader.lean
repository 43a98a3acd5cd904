import DimensionalMetrics.Json.Numeral
import DimensionalMetrics.Json.Value

/-!
# Reading JSON

The value that a JSON text stands for.  Reading is the inverse of writing: numerals are rounded
correctly, so that the shortest digits of a number read back as that number, and members of objects
keep their order and their repetitions.
-/

namespace DimensionalMetrics.Json

open Scan

/-- The decimal that a numeral writes, but for its sign. -/
def Scan.Numeral.magnitude (n : Numeral) : Decimal :=
  let fraction := n.fraction.getD []
  let exponent : Int :=
    match n.exponent with
    | none => 0
    | some (true, ds) => -(digitsValue ds : Int)
    | some (false, ds) => digitsValue ds
  ⟨digitsValue (n.whole ++ fraction), exponent - fraction.length⟩

/-- The number of a numeral.  Without sign, point and exponent it is a natural number. -/
def Scan.Numeral.toJson (n : Numeral) : Json :=
  if !n.negative ∧ n.fraction = none ∧ n.exponent = none then .nat (digitsValue n.whole)
  else
    let x := n.magnitude.toBinary64
    .real (if n.negative then x.negate else x)

mutual

/-- A value, and the text after it.  `fuel` bounds the depth and number of values together: each one
has a character of its own. -/
def readValue (fuel : Nat) (cs : List Char) : Option (Json × List Char) :=
  match fuel, skipSpace cs with
  | 0, _ | _, [] => none
  | fuel + 1, c :: rest =>
    if c = '"' then
      match string rest with
      | .ok (s, rest) => some (.str (String.ofList s), rest)
      | .error _ => none
    else if c = '[' then
      match skipSpace rest with
      | ']' :: rest => some (.arr [], rest)
      | rest => (readItems fuel rest).map fun (items, rest) => (.arr items, rest)
    else if c = '\x7b' then
      match skipSpace rest with
      | '\x7d' :: rest => some (.obj [], rest)
      | rest => (readMembers fuel rest).map fun (members, rest) => (.obj members, rest)
    else if c = '-' ∨ c.isDigit then
      match numeral (c :: rest) with
      | .ok (n, rest) => some (n.toJson, rest)
      | .error _ => none
    else readWord c rest

/-- The items of an array up to its end, of which there is at least one. -/
def readItems (fuel : Nat) (cs : List Char) : Option (List Json × List Char) :=
  match fuel with
  | 0 => none
  | fuel + 1 =>
    match readValue fuel cs with
    | none => none
    | some (item, rest) =>
      match skipSpace rest with
      | ']' :: rest => some ([item], rest)
      | ',' :: rest => (readItems fuel rest).map fun (items, rest) => (item :: items, rest)
      | _ => none

/-- The members of an object up to its end, of which there is at least one. -/
def readMembers (fuel : Nat) (cs : List Char) : Option (List (String × Json) × List Char) :=
  match fuel, skipSpace cs with
  | fuel + 1, '"' :: rest =>
    match string rest with
    | .error _ => none
    | .ok (key, rest) =>
      match skipSpace rest with
      | ':' :: rest =>
        match readValue fuel rest with
        | none => none
        | some (value, rest) =>
          let member := (String.ofList key, value)
          match skipSpace rest with
          | '\x7d' :: rest => some ([member], rest)
          | ',' :: rest =>
            (readMembers fuel rest).map fun (members, rest) => (member :: members, rest)
          | _ => none
      | _ => none
  | _, _ => none

/-- One of the three words, whose first character is `c`. -/
def readWord (c : Char) (rest : List Char) : Option (Json × List Char) :=
  let named (letters : List Char) (j : Json) : Option (Json × List Char) :=
    match word letters rest with
    | .ok rest => some (j, rest)
    | .error _ => none
  if c = 'n' then named ['u', 'l', 'l'] .null
  else if c = 't' then named ['r', 'u', 'e'] (.bool true)
  else if c = 'f' then named ['a', 'l', 's', 'e'] (.bool false)
  else none

end

def read? (s : String) : Option Json :=
  match readValue (s.length + 1) s.toList with
  | some (j, rest) => if skipSpace rest = [] then some j else none
  | none => none

end DimensionalMetrics.Json
