import DimensionalMetrics.Text.CodePointMap
import DimensionalMetrics.Text.Composition
import DimensionalMetrics.Text.Direction
import DimensionalMetrics.Text.Joining
import DimensionalMetrics.Uri.NameTable
import DimensionalMetrics.Uri.Punycode

/-!
# Host names in ASCII

A host name may be written in any script.  Its characters are mapped to the form in which names are
compared and composed, each label is checked, and labels with characters beyond ASCII are written in
Punycode.  A label that is in Punycode already is checked by what it stands for.
-/

namespace DimensionalMetrics

namespace Uri

/-! ### Mapping characters -/

/-- What becomes of a character of a name. -/
inductive NameAction where
  | keep
  | drop
  | refuse
  | up (distance : Nat)
  | down (distance : Nat)
  | replace (others : List Char)
deriving DecidableEq

def NameAction.ofDescription (description : List Char) : NameAction :=
  let number (ds : List Char) : Nat := (hexNumber? ds).getD 0
  match description with
  | '?' :: _ => .drop
  | '!' :: _ => .refuse
  | '+' :: operand => .up (number operand)
  | '-' :: operand => .down (number operand)
  | '=' :: operand => .replace ((pieces (· = ',') operand).map fun ds => Char.ofNat (number ds))
  | _ => .keep

def nameActions : CodePointMap NameAction := .ofRows NameAction.ofDescription nameTableRows

def nameAction (c : Char) : NameAction := (nameActions.get? c).getD .refuse

/-- The characters that take the place of a character, unless it is refused. -/
def mapNameChar? (c : Char) : Option (List Char) :=
  match nameAction c with
  | .keep => some [c]
  | .drop => some []
  | .refuse => none
  | .up n => some [Char.ofNat (c.toNat + n)]
  | .down n => some [Char.ofNat (c.toNat - n)]
  | .replace cs => some cs

/-! ### Checking labels -/

/-- Characters that no host name may hold. -/
def isForbiddenInName (c : Char) : Bool :=
  c.toNat ≤ 0x20 || c.toNat = 0x7f ||
    ['%', '#', '/', ':', '<', '>', '?', '@', '[', '\\', ']', '^', '|'].contains c

/-- The greatest number of characters in a label that needs Punycode. -/
def longestEncodedLabel : Nat := 1000

/-- The greatest number of characters after the sign of a label in Punycode. -/
def longestPunycode : Nat := 2000

def isAscii (cs : List Char) : Bool := cs.all (·.toNat < 0x80)

def isGoodLabel (label : List Char) : Bool :=
  !label.any isForbiddenInName && joinersInPlace label &&
    (isAscii label || label.length ≤ longestEncodedLabel) &&
    (match label with
      | [] => true
      | c :: _ => !combiningMarks.contains c)

def punycodeSign : List Char := ['x', 'n', '-', '-']

/-- A label of a name. -/
structure Label where
  /-- What the label stands for. -/
  meaning : List Char
  /-- The label in ASCII. -/
  ascii : List Char

/-- Reads a mapped label.  One in Punycode must stand for composed characters that mapping keeps. -/
def Label.read? (label : List Char) : Option Label :=
  if punycodeSign.isPrefixOf label then do
    let code := label.drop punycodeSign.length
    let meaning ← if code.length ≤ longestPunycode then Punycode.decode? code else none
    if isAscii meaning ∨ meaning.any (nameAction · ≠ .keep) ∨ composed meaning ≠ meaning then none
    else if isGoodLabel meaning then some ⟨meaning, label⟩
    else none
  else if !isGoodLabel label then none
  else if isAscii label then some ⟨label, label⟩
  else some ⟨label, punycodeSign ++ Punycode.encode label⟩

/-- A host name in ASCII, or `none` if it is no host name.  Where a label has characters that are
written from the right, each label must be written in one direction. -/
def nameInAscii? (name : List Char) : Option (List Char) := do
  let mapped ← name.mapM mapNameChar?
  let labels ← (pieces (· = '.') (composed mapped.flatten)).mapM Label.read?
  let meanings := labels.map Label.meaning
  if meanings.any hasRightToLeft && !meanings.all isOneWay then none
  else some (List.intercalate ['.'] (labels.map Label.ascii))

end Uri

end DimensionalMetrics
