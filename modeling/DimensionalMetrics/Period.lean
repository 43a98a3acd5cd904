import DimensionalMetrics.Measurement

/-!
# Periods

What a timer or a distribution summary has recorded since it was last measured: how many amounts,
their total, the total of their squares and the largest one.  The total stays at the largest word
once it gets there.  Squares are added up in double precision: the amount, its square and each new
sum are rounded in turn.  All of these are natural numbers, and far below the largest double, so the
rounded value is kept as a natural number too.
-/

namespace DimensionalMetrics

/-- The records of one period. -/
structure Period where
  count : UInt64 := 0
  total : UInt64 := 0
  totalOfSquares : Nat := 0
  max : UInt64 := 0
deriving DecidableEq, Repr, Inhabited

namespace Period

/-- The period without records. -/
def empty : Period := {}

/-- The sum of two words, or the largest word where they have none. -/
def saturatingAdd (a b : UInt64) : UInt64 := UInt64.ofNat (min (a.toNat + b.toNat) largestWord)

/-- The square of an amount in double precision. -/
def square (amount : UInt64) : Nat :=
  let a := Binary64.roundNat amount.toNat
  Binary64.roundNat (a * a)

def record (p : Period) (amount : UInt64) : Period where
  count := p.count + 1
  total := saturatingAdd p.total amount
  totalOfSquares := Binary64.roundNat (p.totalOfSquares + square amount)
  max := if p.max < amount then amount else p.max

/-- The values of a period; meters differ in what they call the total. -/
def values (p : Period) (totalStatistic : Statistic) : List (Statistic × Binary64) :=
  [(.count, .ofNat p.count.toNat), (totalStatistic, .ofNat p.total.toNat),
    (.totalOfSquares, .ofNat p.totalOfSquares), (.max, .ofNat p.max.toNat)]

end Period

end DimensionalMetrics
