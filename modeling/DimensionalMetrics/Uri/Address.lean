import DimensionalMetrics.Number.Decimal
import DimensionalMetrics.Text.Hex
import DimensionalMetrics.Text.Pieces

/-!
# Internet addresses

The two forms in which a host can be a number: four bytes between dots, with the shorthands that
fold several bytes into the last part, and eight groups of hexadecimal digits between colons, of
which one run of zeros may be left out.
-/

namespace DimensionalMetrics

namespace Uri

/-! ### Four bytes -/

/-- What a part of a dotted address says. -/
inductive AddressPart where
  | number (n : Nat)
  | notNumber
deriving DecidableEq

/-- The number of digits to a base, if all characters are such digits. -/
def numberToBase? (base : Nat) (cs : List Char) : Option Nat :=
  cs.foldl
    (fun acc c => do
      let n ← acc
      let d ← hexValue? c
      if d < base then some (base * n + d) else none)
    (some 0)

/-- A part of a dotted address: hexadecimal after `0x`, octal after a zero, else decimal.  A base
without digits says zero. -/
def addressPart (cs : List Char) : AddressPart :=
  let read (base : Nat) (ds : List Char) : AddressPart :=
    match numberToBase? base ds with
    | some n => .number n
    | none => .notNumber
  match cs with
  | [] => .notNumber
  | '0' :: 'x' :: ds => read 16 ds
  | '0' :: 'X' :: ds => read 16 ds
  | '0' :: d :: ds => read 8 (d :: ds)
  | ds => read 10 ds

/-- The parts of a name between dots, without an empty one at its end. -/
def dottedParts (cs : List Char) : List (List Char) :=
  let parts := pieces (· = '.') cs
  if 1 < parts.length ∧ parts.getLast? = some [] then parts.dropLast else parts

/-- Whether the last part of a name is a number, so that the name must be a dotted address. -/
def endsInNumber (cs : List Char) : Bool :=
  match (dottedParts cs).getLast? with
  | none => false
  | some part => (part ≠ [] && part.all Char.isDigit) || addressPart part ≠ .notNumber

/-- The address that a name stands for whose last part is a number. -/
def readDotted? (cs : List Char) : Option Nat := do
  let parts ← (dottedParts cs).mapM fun part =>
    match addressPart part with
    | .number n => some n
    | .notNumber => none
  let last ← parts.getLast?
  let leading := parts.dropLast
  if 3 < leading.length ∨ Nat.pow 256 (4 - leading.length) ≤ last ∨ leading.any (255 < ·) then none
  else
    let high := leading.foldl (fun acc n => 256 * acc + n) 0
    some (high * Nat.pow 256 (4 - leading.length) + last)

/-- An address of four bytes, with dots between them. -/
def dottedText (n : Nat) : List Char :=
  List.intercalate ['.']
    ([n / 0x1000000, n / 0x10000 % 256, n / 0x100 % 256, n % 256].map Decimal.digits)

/-! ### Eight groups -/

/-- A byte in decimal, without leading zeros. -/
def readByte? (cs : List Char) : Option Nat :=
  if cs = [] ∨ (1 < cs.length ∧ cs.head? = some '0') ∨ cs.any (!·.isDigit) then none
  else
    match numberToBase? 10 cs with
    | some n => if n < 256 then some n else none
    | none => none

def readGroup? (cs : List Char) : Option Nat :=
  if cs = [] ∨ 4 < cs.length then none else hexNumber? cs

/-- The groups between colons.  The last place may hold four bytes between dots, if `dotted` allows
it, and these count as two groups. -/
def readGroups? (dotted : Bool) (cs : List Char) : Option (List Nat) :=
  if cs = [] then some []
  else
    let parts := pieces (· = ':') cs
    let leading := parts.dropLast.mapM readGroup?
    match leading, parts.getLast? with
    | some groups, some last =>
      if dotted ∧ last.contains '.' then
        match (pieces (· = '.') last).mapM readByte? with
        | some [a, b, c, d] => some (groups ++ [256 * a + b, 256 * c + d])
        | _ => none
      else (readGroup? last).map fun g => groups ++ [g]
    | _, _ => none

/-- The text before the first pair of colons and the text after it. -/
def splitAtGap : List Char → Option (List Char × List Char)
  | ':' :: ':' :: rest => some ([], rest)
  | c :: rest => (splitAtGap rest).map fun (before, after) => (c :: before, after)
  | [] => none

/-- The eight groups of an address.  A pair of colons stands for one group of zeros or more. -/
def readColons? (cs : List Char) : Option (List Nat) :=
  match splitAtGap cs with
  | none =>
    match readGroups? true cs with
    | some groups => if groups.length = 8 then some groups else none
    | none => none
  | some (before, after) =>
    match readGroups? false before, readGroups? true after with
    | some left, some right =>
      if left.length + right.length < 8 then
        some (left ++ List.replicate (8 - left.length - right.length) 0 ++ right)
      else none
    | _, _ => none

/-- The longest run of zeros, as its start and its length; of several the first one. -/
def longestZeros (groups : List Nat) : Nat × Nat :=
  (List.range groups.length).foldl
    (fun best i =>
      let run := ((groups.drop i).takeWhile (· = 0)).length
      if best.2 < run then (i, run) else best)
    (0, 0)

/-- Eight groups as text in brackets; the longest run of at least two zeros is left out. -/
def colonsText (groups : List Nat) : List Char :=
  let join (gs : List Nat) : List Char := List.intercalate [':'] (gs.map hexDigits)
  let (start, run) := longestZeros groups
  let inner :=
    if 2 ≤ run then join (groups.take start) ++ [':', ':'] ++ join (groups.drop (start + run))
    else join groups
  '[' :: (inner ++ [']'])

end Uri

end DimensionalMetrics
