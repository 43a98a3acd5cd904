import DimensionalMetrics.Text.CodePointMap
import DimensionalMetrics.Text.DirectionTable

/-!
# Text of one direction

Where scripts written from the right meet others, a text can look like one with its characters in
another order.  A text is `OneWay` if its characters cannot be taken for others: its first letter
says from where it is written, nothing in it is written from the other side, and it ends with a
letter or a digit.
-/

namespace DimensionalMetrics

/-- In which direction a character is written. -/
inductive Direction where
  | fromLeft
  | fromRight
  | europeanDigit
  | arabicDigit
  | neutral
  | mark
  | separator
deriving DecidableEq, Repr

def Direction.ofDescription : List Char → Direction
  | [':', 'l'] => .fromLeft
  | [':', 'r'] => .fromRight
  | [':', 'e'] => .europeanDigit
  | [':', 'a'] => .arabicDigit
  | [':', 'n'] => .neutral
  | [':', 'm'] => .mark
  | _ => .separator

def directions : CodePointMap Direction := .ofRows Direction.ofDescription directionRows

def direction (c : Char) : Direction := (directions.get? c).getD .fromLeft

/-- Whether a text has characters that are written from the right. -/
def hasRightToLeft (cs : List Char) : Bool :=
  cs.any fun c => direction c = .fromRight || direction c = .arabicDigit

/-- Whether directions can stand together in a text that is written from the left. -/
def isLeftToRight (ds : List Direction) : Bool :=
  ds.all [.fromLeft, .europeanDigit, .neutral, .mark].contains &&
    (match ds.reverse.dropWhile (· = .mark) with
      | [] => false
      | d :: _ => d = .fromLeft || d = .europeanDigit)

/-- Whether directions can stand together in a text that is written from the right.  Its digits are
all of one kind. -/
def isRightToLeft (ds : List Direction) : Bool :=
  ds.all [.fromRight, .europeanDigit, .arabicDigit, .neutral, .mark].contains &&
    !(ds.contains .europeanDigit && ds.contains .arabicDigit) &&
    (match ds.reverse.dropWhile (· = .mark) with
      | [] => false
      | d :: _ => d = .fromRight || d = .europeanDigit || d = .arabicDigit)

/-- Whether a text has one direction; an empty one has. -/
def isOneWay (cs : List Char) : Bool :=
  match cs.map direction with
  | [] => true
  | .fromLeft :: ds => isLeftToRight (.fromLeft :: ds)
  | .fromRight :: ds => isRightToLeft (.fromRight :: ds)
  | _ => false

end DimensionalMetrics
