import DimensionalMetrics.Number.Word

/-!
# Binary64 numbers

A double-precision number is its bit pattern.  Arithmetic on these numbers is never needed in
general: every number that a meter computes is a natural number or a ratio of two, rounded once to
the nearest representable value, ties going to the even one.  So the module holds the reading of a
pattern (sign, finiteness, exact magnitude as a ratio) and the rounding of naturals and ratios.
-/

namespace DimensionalMetrics

/-- The natural number nearest to a ratio; a tie goes to the even neighbour. -/
def roundHalfEven (num den : Nat) : Nat :=
  let q := num / den
  let r := num % den
  if 2 * r < den then q
  else if den < 2 * r then q + 1
  else q + q % 2

/-- A double-precision number, by its bit pattern. -/
structure Binary64 where
  bits : UInt64
deriving DecidableEq, Repr, Inhabited

namespace Binary64

/-! ### Reading a pattern -/

/-- Two to the fifty-second: the leading one of a significand, which patterns leave out. -/
def hiddenBit : Nat := 0x10000000000000

def zero : Binary64 := ⟨0⟩

def infinity : Binary64 := ⟨0x7ff0000000000000⟩

/-- The pattern that stands for "no number". -/
def notANumber : Binary64 := ⟨0x7ff8000000000000⟩

def isNegative (x : Binary64) : Bool := signBit ≤ x.bits.toNat

def exponentBits (x : Binary64) : Nat := x.bits.toNat / hiddenBit % 2048

def fractionBits (x : Binary64) : Nat := x.bits.toNat % hiddenBit

/-- Neither infinite nor a NaN. -/
def isFinite (x : Binary64) : Bool := x.exponentBits != 2047

/-- A pattern that is no number. -/
def isNaN (x : Binary64) : Bool := x.exponentBits == 2047 && x.fractionBits != 0

/-- Greater than zero, infinity included. -/
def isPositive (x : Binary64) : Bool := !x.isNegative && !x.isNaN && x.bits != 0

/-- Zero of either sign. -/
def isZero (x : Binary64) : Bool := x.exponentBits == 0 && x.fractionBits == 0

/-- The integer significand of a finite number: its fraction, with the leading one unless the number
is subnormal. -/
def significand (x : Binary64) : Nat :=
  if x.exponentBits = 0 then x.fractionBits else hiddenBit + x.fractionBits

/-- The magnitude of a finite number is `numerator / denominator`, and one of the two factors beside
the significand is one. -/
def numerator (x : Binary64) : Nat := x.significand * Nat.pow 2 (max x.exponentBits 1 - 1075)

/-- See `numerator`. -/
def denominator (x : Binary64) : Nat := Nat.pow 2 (1075 - max x.exponentBits 1)

def negate (x : Binary64) : Binary64 := ⟨x.bits ^^^ 0x8000000000000000⟩

/-- A natural number that grows along the total order of all patterns: negative numbers from the
largest magnitude down, then positive ones up, with `-0.0` just below `0.0`. -/
def orderKey (x : Binary64) : Nat :=
  if x.isNegative then largestWord - x.bits.toNat else signBit + x.bits.toNat

/-- The whole part of a number, as far as it is a word: a negative number and a pattern that is no
number give zero, and what is too large gives the largest word. -/
def truncated (x : Binary64) : Nat :=
  if x.isNegative || x.isNaN then 0
  else if x.isFinite then min largestWord (x.numerator / x.denominator)
  else largestWord

/-! ### Rounding -/

/-- The pattern of `significand * 2 ^ (exponent - 1075)`, for a significand of at most `2 ^ 53` that
is at least `2 ^ 52` unless the exponent is one.  A significand that rounding carried to `2 ^ 53`
becomes the first one of the next exponent, and what lies beyond the largest number is infinity. -/
def assemble (significand exponent : Nat) : Binary64 :=
  let magnitude := if significand < hiddenBit then significand
    else exponent * hiddenBit + (significand - hiddenBit)
  if magnitude < 0x7ff0000000000000 then ⟨UInt64.ofNat magnitude⟩ else infinity

/-- The largest `k` with `2 ^ k ≤ num / den`, for a positive ratio. -/
def floorLog2 (num den : Nat) : Int :=
  let guess : Int := (Nat.log2 num : Int) - (Nat.log2 den : Int)
  if den * Nat.pow 2 guess.toNat ≤ num * Nat.pow 2 (-guess).toNat then guess else guess - 1

/-- The number nearest to a ratio of natural numbers, ties going to the even significand. -/
def ofRatio (num den : Nat) : Binary64 :=
  if num = 0 then zero
  else
    let scale : Int := max (floorLog2 num den - 52) (-1074)
    let significand := roundHalfEven (num * Nat.pow 2 (-scale).toNat)
      (den * Nat.pow 2 scale.toNat)
    assemble significand (scale + 1075).toNat

/-- The natural number that a natural number is rounded to: its fifty-three leading bits, the last
one rounded. -/
def roundNat (n : Nat) : Nat :=
  let excess := Nat.log2 n - 52
  roundHalfEven n (Nat.pow 2 excess) * Nat.pow 2 excess

def ofNat (n : Nat) : Binary64 := ofRatio n 1

/-- The product of two nonnegative finite numbers, rounded. -/
def mulMagnitude (x y : Binary64) : Binary64 :=
  ofRatio (x.numerator * y.numerator) (x.denominator * y.denominator)

/-- The quotient of two positive finite numbers, rounded. -/
def divMagnitude (x y : Binary64) : Binary64 :=
  ofRatio (x.numerator * y.denominator) (x.denominator * y.numerator)

end Binary64

end DimensionalMetrics
