/-!
# Machine words

The sizes of unsigned words of sixty-four bits, as natural numbers.
-/

namespace DimensionalMetrics

/-- How many words there are. -/
def wordCount : Nat := 0x10000000000000000

/-- The largest word. -/
def largestWord : Nat := 0xffffffffffffffff

/-- How many words there are without the sign bit. -/
def signBit : Nat := 0x8000000000000000

end DimensionalMetrics
