import DimensionalMetrics.Number.Decimal

/-!
# Durations

A span of time in seconds and nanoseconds, and the text in which configurations and messages show
it: the largest unit of which there is at least one, with the exact fraction.
-/

namespace DimensionalMetrics

/-- Whole seconds and the nanoseconds beyond them. -/
structure Duration where
  seconds : UInt64
  subsec : Fin 1000000000
deriving DecidableEq, Repr, Inhabited

namespace Duration

def zero : Duration := ⟨0, 0⟩

def ofSeconds (s : UInt64) : Duration := ⟨s, 0⟩

def nanos (d : Duration) : Nat := d.seconds.toNat * 1000000000 + d.subsec

/-- Whether no time passes. -/
def isZero (d : Duration) : Bool := d.nanos == 0

/-- The length in nanoseconds as a word; longer spans count as the largest one. -/
def clampedNanos (d : Duration) : UInt64 := UInt64.ofNat (min d.nanos largestWord)

/-- Seconds and nanoseconds put together, a full second of nanoseconds being carried over.  There is
no such duration if the seconds do not fit. -/
def make? (seconds nanos : Nat) : Option Duration :=
  let total := seconds + nanos / 1000000000
  if total < wordCount then
    some ⟨UInt64.ofNat total, ⟨nanos % 1000000000, Nat.mod_lt _ (by decide)⟩⟩
  else none

/-- A number of units with `places` decimal places, without the zeros at its end. -/
def unitsChars (whole fraction places : Nat) : List Char :=
  let ds := Decimal.digits fraction
  let padded := List.replicate (places - ds.length) '0' ++ ds
  let kept := (padded.reverse.dropWhile (· = '0')).reverse
  Decimal.digits whole ++ (if kept = [] then [] else '.' :: kept)

def text (d : Duration) : String :=
  let n : Nat := d.subsec
  let (cs, suffix) :=
    if d.seconds ≠ 0 then (unitsChars d.seconds.toNat n 9, "s")
    else if 1000000 ≤ n then (unitsChars (n / 1000000) (n % 1000000) 6, "ms")
    else if 1000 ≤ n then (unitsChars (n / 1000) (n % 1000) 3, "µs")
    else (unitsChars n 0 0, "ns")
  String.ofList cs ++ suffix

end Duration

end DimensionalMetrics
