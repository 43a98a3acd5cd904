import DimensionalMetrics.Text.Hex

/-!
# Percent-encoding

A character that may not stand at some place of an address is written there as the bytes of its
UTF-8 form, each as a percent sign and two upper-case hexadecimal digits.
-/

namespace DimensionalMetrics

namespace Uri

/-- Controls, and everything that is not ASCII. -/
def isControlOrForeign (c : Char) : Bool := c.toNat < 0x20 || 0x7e < c.toNat

def inFragmentSet (c : Char) : Bool := isControlOrForeign c || [' ', '"', '<', '>', '`'].contains c

def inPathSet (c : Char) : Bool := inFragmentSet c || ['#', '?', '\x7b', '\x7d'].contains c

def inCredentialSet (c : Char) : Bool :=
  inPathSet c || ['/', ':', ';', '=', '@', '[', '\\', ']', '^', '|'].contains c

/-- Characters that are encoded in queries; an apostrophe is among them in `special` schemes. -/
def inQuerySet (special : Bool) (c : Char) : Bool :=
  isControlOrForeign c || [' ', '"', '#', '<', '>'].contains c || (special && c = '\'')

def percentByte (b : UInt8) : List Char :=
  '%' :: (hexPadded 2 b.toNat).map Char.toUpper

/-- A text in which the characters of a set are percent-encoded. -/
def percentEncode (inSet : Char → Bool) (cs : List Char) : List Char :=
  cs.flatMap fun c => if inSet c then (String.utf8EncodeChar c).flatMap percentByte else [c]

/-- The bytes of a text in which each percent sign that two hexadecimal digits follow stands for a
byte. -/
def percentDecode : List Char → List UInt8
  | '%' :: a :: b :: rest =>
    match hexValue? a, hexValue? b with
    | some high, some low => UInt8.ofNat (16 * high + low) :: percentDecode rest
    | _, _ => '%'.toUInt8 :: percentDecode (a :: b :: rest)
  | c :: rest => String.utf8EncodeChar c ++ percentDecode rest
  | [] => []

end Uri

end DimensionalMetrics
