/-!
# Hexadecimal digits

Lower-case hexadecimal numerals, plain and of a fixed width, and the value of a digit.
-/

namespace DimensionalMetrics

/-- The lower-case digits of a number to base sixteen, without leading zeros (`0` for zero). -/
def hexDigits (n : Nat) : List Char := Nat.toDigits 16 n

/-- The digits of a number, padded with zeros on the left to a least width. -/
def hexPadded (width n : Nat) : List Char :=
  List.replicate (width - (hexDigits n).length) '0' ++ hexDigits n

def hexWord (w : UInt64) : String := String.ofList (hexPadded 16 w.toNat)

def hexValue? (c : Char) : Option Nat :=
  if '0' ≤ c ∧ c ≤ '9' then some (c.toNat - 48)
  else if 'a' ≤ c ∧ c ≤ 'f' then some (c.toNat - 87)
  else if 'A' ≤ c ∧ c ≤ 'F' then some (c.toNat - 55)
  else none

/-- The number that a list of digits spells, or `none` if one of them is no digit. -/
def hexNumber? (cs : List Char) : Option Nat :=
  cs.foldl (fun acc c => do return 16 * (← acc) + (← hexValue? c)) (some 0)

end DimensionalMetrics
