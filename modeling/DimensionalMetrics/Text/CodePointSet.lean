import DimensionalMetrics.Search

/-!
# Sets of code points

A property of characters is kept as the increasing list of the code points at which it changes, so
that membership is the parity of the number of changes up to a character.
-/

namespace DimensionalMetrics

/-- A set of code points.  `changes` is increasing; the set begins at its first entry, ends before
its second, begins again at its third, and so on. -/
structure CodePointSet where
  changes : Array Nat

namespace CodePointSet

/-- The number of changes at or below a code point. -/
def changesUpTo (s : CodePointSet) (code : Nat) : Nat :=
  partitionPoint (fun i => decide (s.changes.getD i 0 ≤ code)) 0 s.changes.size

def contains (s : CodePointSet) (c : Char) : Bool :=
  s.changesUpTo c.toNat % 2 == 1

end CodePointSet

end DimensionalMetrics
