import DimensionalMetrics.Id
import DimensionalMetrics.Number.Binary64

/-!
# Measurements

What a sweep takes from a meter: values, each under a statistic.  The statistic also says how values
of many sources are combined, by adding them up or by taking the largest.
-/

namespace DimensionalMetrics

/-- The kinds of meters. -/
inductive Kind where
  | counter
  | gauge
  | timer
  | distributionSummary
deriving DecidableEq, Repr

def Kind.name : Kind → String
  | counter => "Counter"
  | gauge => "Gauge"
  | timer => "Timer"
  | distributionSummary => "DistributionSummary"

/-- How values of one statistic from many sources are combined. -/
inductive Combination where
  | sum
  | maximum
deriving DecidableEq, Repr

/-- The number that stands for a combination in payloads. -/
def Combination.code : Combination → Nat
  | sum => 0
  | maximum => 10

/-- What a value says about its meter. -/
inductive Statistic where
  | count
  | gauge
  | totalTime
  | totalAmount
  | totalOfSquares
  | max
deriving DecidableEq, Repr

namespace Statistic

/-- The name of a statistic, as it is published. -/
def label : Statistic → String
  | count => "count"
  | gauge => "gauge"
  | totalTime => "totalTime"
  | totalAmount => "totalAmount"
  | totalOfSquares => "totalOfSquares"
  | max => "max"

def combination : Statistic → Combination
  | count | totalTime | totalAmount | totalOfSquares => .sum
  | gauge | max => .maximum

end Statistic

/-- One value of a sweep. -/
structure Measurement where
  id : Id
  statistic : Statistic
  value : Binary64
deriving DecidableEq

end DimensionalMetrics
