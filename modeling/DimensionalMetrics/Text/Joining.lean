import DimensionalMetrics.Text.CodePointMap
import DimensionalMetrics.Text.JoiningTable
import DimensionalMetrics.Text.Mark

/-!
# Signs that join letters or keep them apart

Two characters without a shape of their own ask for the letters around them to be joined, or to be
kept apart.  They have an effect only at some places, and `joinersInPlace` says whether all of them
in a text stand at such a place.
-/

namespace DimensionalMetrics

/-- To which of its neighbours a letter is joined. -/
inductive Joining where
  | both
  | before
  | after
  | transparent
  | neither
deriving DecidableEq, Repr

def Joining.ofDescription : List Char → Joining
  | [':', 'd'] => .both
  | [':', 'r'] => .before
  | [':', 'l'] => .after
  | [':', 't'] => .transparent
  | _ => .neither

def joinings : CodePointMap Joining := .ofRows Joining.ofDescription joiningRows

def joining (c : Char) : Joining := (joinings.get? c).getD .neither

/-- The sign that keeps letters apart. -/
def nonJoiner : Char := '\u200c'

/-- The sign that joins letters. -/
def joiner : Char := '\u200d'

/-- Whether the first letter of a text, characters that letters are joined across apart, is joined
on one side. -/
def beginsJoined (side : Joining) (cs : List Char) : Bool :=
  match (cs.map joining).dropWhile (· = .transparent) with
  | [] => false
  | j :: _ => j = side || j = .both

/-- Whether the signs in a text stand where they have an effect: after a virama, or, if they keep
apart, between letters that would be joined.  `before` is the text in front, in reverse. -/
def joinersInPlaceAfter (before : List Char) : List Char → Bool
  | [] => true
  | c :: rest =>
    let isPlaced : Bool :=
      if c = nonJoiner then
        (before.head?.map isVirama).getD false ||
          (beginsJoined .after before && beginsJoined .before rest)
      else if c = joiner then (before.head?.map isVirama).getD false
      else true
    isPlaced && joinersInPlaceAfter (c :: before) rest

/-- Whether all signs in a text stand where they have an effect. -/
def joinersInPlace (cs : List Char) : Bool := joinersInPlaceAfter [] cs

end DimensionalMetrics
