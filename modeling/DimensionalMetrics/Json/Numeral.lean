import DimensionalMetrics.Json.Scan
import DimensionalMetrics.Number.Decimal

/-!
# The number that a numeral stands for

Integers that fit a machine word are exact.  Every other numeral stands for a binary64 number that
is found quickly rather than exactly: as many digits as fit an unsigned word form a significand,
which is rounded, and then multiplied or divided by a rounded power of ten.
-/

namespace DimensionalMetrics.Json

/-- A number read from JSON text. -/
inductive Number where
  | natural (value : Nat)
  | negative (magnitude : Nat)
  | real (value : Binary64)
deriving DecidableEq, Repr

namespace Scan

def digitsValue (ds : List Char) : Nat := ds.foldl (fun n d => 10 * n + (d.toNat - 48)) 0

/-- Appends digits to a significand as long as it fits an unsigned word; gives the significand and
the digits that are left. -/
def fillWord (significand : Nat) : List Char → Nat × List Char
  | [] => (significand, [])
  | d :: ds =>
    let next := 10 * significand + (d.toNat - 48)
    if next < wordCount then fillWord next ds else (significand, d :: ds)

def powerOfTen (k : Nat) : Binary64 := Binary64.ofNat (Nat.pow 10 k)

/-- The largest power of ten that is a binary64 number. -/
def largestPower : Nat := 308

/-- Divides by a power of ten, in steps of the largest one. -/
def scaleDown (x : Binary64) (k : Nat) : Binary64 :=
  if k ≤ largestPower then x.divMagnitude (powerOfTen k)
  else if x = Binary64.zero then x
  else scaleDown (x.divMagnitude (powerOfTen largestPower)) (k - largestPower)
termination_by k
decreasing_by simp only [largestPower] at *; omega

/-- A nonnegative number times a power of ten, or `none` if that is too large. -/
def scaled? (x : Binary64) (exponent : Int) : Option Binary64 :=
  if exponent < 0 then some (scaleDown x (-exponent).toNat)
  else if exponent.toNat ≤ largestPower then
    let product := x.mulMagnitude (powerOfTen exponent.toNat)
    if product.isFinite then some product else none
  else if x = Binary64.zero then some x
  else none

/-- The largest exponent that is looked at in digits. -/
def largestExponent : Nat := 0x7fffffff

/-- The magnitude of a numeral that is not kept as an integer: `significand` is filled from its
whole digits, of which `dropped` did not fit. -/
def realMagnitude? (significand dropped : Nat) (fraction : List Char)
    (exponent : Option (Bool × List Char)) : Option Binary64 :=
  let (significand, left) := fillWord significand fraction
  let start : Int := (dropped : Int) - ((fraction.length - left.length : Nat) : Int)
  match exponent with
  | none => scaled? (Binary64.ofNat significand) start
  | some (negative, ds) =>
    let e := digitsValue ds
    if largestExponent < e then
      if negative ∨ significand = 0 then some Binary64.zero else none
    else scaled? (Binary64.ofNat significand) (if negative then start - e else start + e)

/-- The number of a numeral, or `none` if it is out of range. -/
def Numeral.number? (n : Numeral) : Option Number :=
  let (significand, left) := fillWord 0 n.whole
  let signed (x : Binary64) : Number := .real (if n.negative then x.negate else x)
  if left = [] ∧ n.fraction = none ∧ n.exponent = none then
    if ¬ n.negative then some (.natural significand)
    else if 0 < significand ∧ significand ≤ signBit then some (.negative significand)
    else some (signed (Binary64.ofNat significand))
  else
    (realMagnitude? significand left.length (n.fraction.getD []) n.exponent).map signed

end Scan

end DimensionalMetrics.Json
