import DimensionalMetrics.Number.Text
import DimensionalMetrics.Text.Hex

/-!
# JSON values and their text

The text has no blanks, keeps the order of an object's members, writes natural numbers in decimal
and other numbers with the fewest digits that read back.  Infinities and NaNs have no number in JSON
and are written as `null`.
-/

namespace DimensionalMetrics

/-- A JSON value.  Natural numbers are kept apart from the other numbers, which have a point or an
exponent in their text. -/
inductive Json where
  | null
  | bool (value : Bool)
  | nat (value : Nat)
  | real (value : Binary64)
  | str (value : String)
  | arr (items : List Json)
  | obj (members : List (String × Json))
deriving Inhabited

namespace Json

/-- The character that follows the backslash when a character has an escape of two characters. -/
def shortEscape? (c : Char) : Option Char :=
  if c = '"' then some '"'
  else if c = '\\' then some '\\'
  else if c = '\x08' then some 'b'
  else if c = '\x0c' then some 'f'
  else if c = '\n' then some 'n'
  else if c = '\r' then some 'r'
  else if c = '\t' then some 't'
  else none

def escapeChar (c : Char) : List Char :=
  match shortEscape? c with
  | some e => ['\\', e]
  | none => if c.toNat < 0x20 then ['\\', 'u'] ++ hexPadded 4 c.toNat else [c]

/-- A JSON string, quotes included. -/
def strChars (cs : List Char) : List Char := '"' :: (cs.flatMap escapeChar ++ ['"'])

/-- A number that is not written as a natural number. -/
def realChars (x : Binary64) : List Char :=
  if x.isFinite then x.chars else ['n', 'u', 'l', 'l']

mutual

def chars : Json → List Char
  | null => ['n', 'u', 'l', 'l']
  | bool true => ['t', 'r', 'u', 'e']
  | bool false => ['f', 'a', 'l', 's', 'e']
  | nat n => Decimal.digits n
  | real x => realChars x
  | str s => strChars s.toList
  | arr items => '[' :: (itemsChars items ++ [']'])
  | obj members => '\x7b' :: (membersChars members ++ ['\x7d'])

/-- The items of an array, separated by commas. -/
def itemsChars : List Json → List Char
  | [] => []
  | [item] => chars item
  | item :: rest => chars item ++ ',' :: itemsChars rest

/-- The members of an object, separated by commas. -/
def membersChars : List (String × Json) → List Char
  | [] => []
  | [(key, value)] => strChars key.toList ++ ':' :: chars value
  | (key, value) :: rest => strChars key.toList ++ ':' :: (chars value ++ ',' :: membersChars rest)

end

def text (j : Json) : String := String.ofList j.chars

end Json

end DimensionalMetrics
