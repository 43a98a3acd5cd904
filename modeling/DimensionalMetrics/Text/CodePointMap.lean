import DimensionalMetrics.Search
import DimensionalMetrics.Text.Hex
import DimensionalMetrics.Text.Pieces

/-!
# Properties of code points

A property whose values hold for whole ranges of characters is kept as an increasing list of the
code points at which its value changes.  Such a list is written as rows of words: each word is the
hexadecimal number of a code point, followed by a description of the value from there on.
-/

namespace DimensionalMetrics

/-- The values of a property.  The code points of `changes` are increasing; the value beside each of
them holds from there up to the next one. -/
structure CodePointMap (α : Type) where
  changes : Array (Nat × α)

namespace CodePointMap

variable {α : Type}

/-- The value for a character, unless the list begins after it. -/
def get? (m : CodePointMap α) (c : Char) : Option α :=
  let i := partitionPoint
    (fun i => (m.changes[i]?.map fun change => decide (change.1 ≤ c.toNat)).getD false)
    0 m.changes.size
  if i = 0 then none else m.changes[i - 1]?.map Prod.snd

def ofRows (read : List Char → α) (rows : Array String) : CodePointMap α :=
  let isHex (c : Char) : Bool := (hexValue? c).isSome
  let change (word : List Char) : Nat × α :=
    ((hexNumber? (word.takeWhile isHex)).getD 0, read (word.dropWhile isHex))
  ⟨rows.flatMap fun row => ((pieces (· = ' ') row.toList).map change).toArray⟩

end CodePointMap

end DimensionalMetrics
