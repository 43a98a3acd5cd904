import DimensionalMetrics.Number.Binary64

/-!
# Decimals, and the shortest one that reads back

A decimal is an integer times a power of ten.  Reading one rounds it to the nearest binary64 number;
`Decimal.shortest` is the other way round: the decimal with the fewest digits that reads back as a
given number, and of several with as few digits the one nearest to it.
-/

namespace DimensionalMetrics

/-- The decimal `coefficient * 10 ^ exponent`. -/
structure Decimal where
  coefficient : Nat
  exponent : Int
deriving DecidableEq, Repr, Inhabited

namespace Decimal

def toBinary64 (d : Decimal) : Binary64 :=
  Binary64.ofRatio (d.coefficient * Nat.pow 10 d.exponent.toNat)
    (Nat.pow 10 (-d.exponent).toNat)

/-- The decimal digits of a natural number, most significant first. -/
def digits (n : Nat) : List Char := Nat.toDigits 10 n

/-- The largest `k` with `10 ^ k ≤ num / den`, for a positive ratio. -/
def floorLog10 (num den : Nat) : Int :=
  let guess : Int := ((digits num).length : Int) - ((digits den).length : Int)
  if den * Nat.pow 10 guess.toNat ≤ num * Nat.pow 10 (-guess).toNat then guess else guess - 1

/-- The multiple of `10 ^ exponent` that stands for `x` among those that read back as `x`, if there
is one: of the two next to it the nearer one, the even one on a tie. -/
def onGrid? (x : Binary64) (exponent : Int) : Option Decimal :=
  let num := x.numerator * Nat.pow 10 (-exponent).toNat
  let den := x.denominator * Nat.pow 10 exponent.toNat
  let below : Decimal := ⟨num / den, exponent⟩
  let above : Decimal := ⟨num / den + 1, exponent⟩
  let nearest := if roundHalfEven num den = num / den then below else above
  let farther := if roundHalfEven num den = num / den then above else below
  if nearest.toBinary64 = x then some nearest
  else if farther.toBinary64 = x then some farther
  else none

def exact (x : Binary64) : Decimal :=
  ⟨x.numerator * Nat.pow 5 (Nat.log2 x.denominator), -(Nat.log2 x.denominator : Int)⟩

/-- The first decimal that reads back, on grids of `count` digits and more; after `fuel` grids the
exact one. -/
def shortestFrom (x : Binary64) (leading : Int) : Nat → Nat → Decimal
  | 0, _ => exact x
  | fuel + 1, count =>
    match onGrid? x (leading - count + 1) with
    | some d => d
    | none => shortestFrom x leading fuel (count + 1)

/-- The decimal with the fewest digits that reads back as a positive finite number.  Seventeen
digits are enough for every number. -/
def shortest (x : Binary64) : Decimal :=
  shortestFrom x (floorLog10 x.numerator x.denominator) 17 1

end Decimal

end DimensionalMetrics
