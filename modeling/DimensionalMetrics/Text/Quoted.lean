import DimensionalMetrics.Text.Hex
import DimensionalMetrics.Text.Unprintable

/-!
# Quoted text

Text between double quotes, as identities, configurations and messages show it: quotes, backslashes
and the commonest controls are escaped with a backslash, every other character that cannot stand for
itself is written by its number, and the rest is left alone.
-/

namespace DimensionalMetrics

namespace Quoted

def encodeChar (c : Char) : List Char :=
  if c = '"' then ['\\', '"']
  else if c = '\\' then ['\\', '\\']
  else if c = '\x00' then ['\\', '0']
  else if c = '\t' then ['\\', 't']
  else if c = '\r' then ['\\', 'r']
  else if c = '\n' then ['\\', 'n']
  else if unprintable.contains c then ['\\', 'u', '\x7b'] ++ hexDigits c.toNat ++ ['\x7d']
  else [c]

/-- The characters of a quoted text, quotes included. -/
def encode (cs : List Char) : List Char :=
  '"' :: (cs.flatMap encodeChar ++ ['"'])

end Quoted

/-- A string between quotes, with escapes. -/
def quoted (s : String) : String := String.ofList (Quoted.encode s.toList)

end DimensionalMetrics
