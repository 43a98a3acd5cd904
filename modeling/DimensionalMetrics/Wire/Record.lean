import DimensionalMetrics.Measurement

/-!
# Records

A measurement as it is published: its value, how it is combined with values of the same tags from
other sources, and the tags under which the backend keeps it.  These are the common tags of the
registry, the tags of the meter laid over them, and the two reserved tags that hold the name of the
meter and the statistic.
-/

namespace DimensionalMetrics

/-- The key of the tag that holds the name of the meter. -/
def nameKey : String := "name"

def statisticKey : String := "statistic"

/-- A measurement with all its tags. -/
structure Record where
  tags : Tags
  combination : Combination
  value : Binary64
deriving DecidableEq

/-- The tags of a measurement without the name of its meter. -/
def Measurement.statisticTags (common : Tags) (m : Measurement) : Tags :=
  (common.overlay m.id.tags).insert statisticKey m.statistic.label

def Record.ofMeasurement (common : Tags) (m : Measurement) : Record where
  tags := ((common.overlay m.id.tags).insert nameKey m.id.name).insert statisticKey
    m.statistic.label
  combination := m.statistic.combination
  value := m.value

/-- Whether a measurement is worth sending: a sum only when there is something to add, and nothing
that is not finite. -/
def Measurement.isWorthSending (m : Measurement) : Bool :=
  m.value.isFinite && (m.statistic.combination = .maximum || m.value.isPositive)

end DimensionalMetrics
