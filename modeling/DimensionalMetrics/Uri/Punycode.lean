/-!
# Punycode

A label of a host name that holds characters beyond ASCII is written in letters, digits and hyphens:
its ASCII characters, a hyphen, and then for every other character, in increasing order of code
points, how far the decoder has to count to the place where it is inserted.  Such a count is written
with digits to the base thirty-six whose thresholds adapt to the counts before it.
-/

namespace DimensionalMetrics

namespace Uri

namespace Punycode

/-- The character of a digit: letters, then decimal digits. -/
def digitChar (d : Nat) : Char := if d < 26 then Char.ofNat (97 + d) else Char.ofNat (22 + d)

def digitValue? (c : Char) : Option Nat :=
  if 'a' ≤ c ∧ c ≤ 'z' then some (c.toNat - 97)
  else if 'A' ≤ c ∧ c ≤ 'Z' then some (c.toNat - 65)
  else if '0' ≤ c ∧ c ≤ '9' then some (c.toNat - 22)
  else none

/-- The threshold at the digit of weight `k`: smaller digits end a count. -/
def threshold (bias k : Nat) : Nat := max 1 (min 26 (k - bias))

theorem threshold_pos (bias k : Nat) : 1 ≤ threshold bias k := Nat.le_max_left _ _

theorem threshold_le (bias k : Nat) : threshold bias k ≤ 26 := by
  simp only [threshold]
  omega

/-- Divides a count by thirty-five until it is small; the second number grows with each step. -/
def scaleDown (delta k : Nat) : Nat × Nat :=
  if 455 < delta then scaleDown (delta / 35) (k + 36) else (delta, k)
termination_by delta
decreasing_by exact Nat.div_lt_self (by omega) (by omega)

/-- The bias after a count, when `points` characters are in place. -/
def adapt (delta points : Nat) (first : Bool) : Nat :=
  let delta := if first then delta / 700 else delta / 2
  let (delta, k) := scaleDown (delta + delta / points) 0
  k + 36 * delta / (delta + 38)

/-! ### Writing -/

def countDigits (bias k count : Nat) : List Char :=
  let t := threshold bias k
  if count < t then [digitChar count]
  else digitChar (t + (count - t) % (36 - t)) ::
    countDigits bias (k + 36) ((count - t) / (36 - t))
termination_by count
decreasing_by
  have h₁ := threshold_pos bias k
  have h₂ := Nat.div_le_self (count - threshold bias k) (36 - threshold bias k)
  omega

/-- A text that is being written. -/
structure Writer where
  written : List Char
  delta : Nat
  bias : Nat
  /-- How many characters of the label are written. -/
  placed : Nat

/-- Passes one character of the label while characters with the code point `point` are written. -/
def Writer.pass (plain point : Nat) (w : Writer) (c : Char) : Writer :=
  if c.toNat < point then { w with delta := w.delta + 1 }
  else if c.toNat = point then
    { written := w.written ++ countDigits w.bias 36 w.delta
      delta := 0
      bias := adapt w.delta (w.placed + 1) (w.placed = plain)
      placed := w.placed + 1 }
  else w

/-- Writes all characters with the given code points, which increase from `next` on. -/
def Writer.run (label : List Char) (plain : Nat) (w : Writer) (next : Nat) : List Nat → Writer
  | [] => w
  | point :: points =>
    let w := { w with delta := w.delta + (point - next) * (w.placed + 1) }
    let w := label.foldl (pass plain point) w
    run label plain { w with delta := w.delta + 1 } (point + 1) points

def encode (label : List Char) : List Char :=
  let plain := label.filter (·.toNat < 0x80)
  let points := ((label.map Char.toNat).filter (0x80 ≤ ·)).mergeSort.eraseReps
  let w := Writer.run label plain.length ⟨[], 0, 72, plain.length⟩ 0x80 points
  plain ++ (if plain = [] then [] else ['-']) ++ w.written

/-! ### Reading -/

/-- The greatest count, and the greatest weight of a digit. -/
def greatestCount : Nat := 0xffffffff

/-- Reads a count, which is added to `index`. -/
def readCount? (bias : Nat) : List Char → Nat → Nat → Nat → Option (Nat × List Char)
  | [], _, _, _ => none
  | c :: rest, k, weight, index => do
    let d ← digitValue? c
    let index := index + d * weight
    let t := threshold bias k
    if greatestCount < index then none
    else if d < t then some (index, rest)
    else if greatestCount < weight * (36 - t) then none
    else readCount? bias rest (k + 36) (weight * (36 - t)) index

/-- Inserts characters into a label until the text ends.  `fuel` bounds their number, each having a
character of the text. -/
def insertAll? (fuel : Nat) (label : List Char) (point index bias : Nat) (cs : List Char) :
    Option (List Char) :=
  match fuel, cs with
  | _, [] => some label
  | 0, _ => none
  | fuel + 1, cs => do
    let (after, rest) ← readCount? bias cs 36 1 index
    let size := label.length + 1
    let point := point + after / size
    let place := after % size
    if point.isValidChar then
      insertAll? fuel (label.take place ++ Char.ofNat point :: label.drop place) point
        (place + 1) (adapt (after - index) size (index = 0)) rest
    else none

/-- The label that a text in ASCII characters stands for.  A hyphen that no character stands before
is out of place. -/
def decode? (cs : List Char) : Option (List Char) :=
  let reversed := cs.reverse
  let tail := (reversed.takeWhile (· ≠ '-')).reverse
  let plain := ((reversed.dropWhile (· ≠ '-')).drop 1).reverse
  if plain.any (0x80 ≤ ·.toNat) ∨ (plain = [] ∧ cs.contains '-') then none
  else insertAll? tail.length plain 0x80 0 72 tail

end Punycode

end Uri

end DimensionalMetrics
