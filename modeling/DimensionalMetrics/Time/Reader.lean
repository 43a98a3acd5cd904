import DimensionalMetrics.Text.Space
import DimensionalMetrics.Time.Duration

/-!
# Reading durations

A duration is written as parts such as `1h 30m` or `2.5s`, each a number and a unit, which are added
up.  The number may have a decimal fraction if that comes to a whole number of the unit's steps:
nanoseconds for units of up to a minute, seconds for longer ones.  All arithmetic is on 64-bit words
and refuses what does not fit, with one exception: seconds that overflow only when a full second of
nanoseconds is carried into them are not refused but reported as `Fault.carry`.
-/

namespace DimensionalMetrics.Duration

/-- Why a text is no duration. -/
inductive Fault where
  /-- The text does not follow the grammar, or a number in it does not fit. -/
  | invalid
  /-- The seconds overflowed on the carry of the nanoseconds. -/
  | carry
deriving DecidableEq, Repr

/-- The units of time. -/
inductive TimeUnit where
  | nanosecond | microsecond | millisecond | second | minute | hour | day | week | month | year
deriving DecidableEq, Repr

namespace TimeUnit

def spellings : TimeUnit → List String
  | nanosecond => ["nanos", "nsec", "ns"]
  | microsecond => ["usec", "us", "µs"]
  | millisecond => ["millis", "msec", "ms"]
  | second => ["seconds", "second", "secs", "sec", "s"]
  | minute => ["minutes", "minute", "min", "mins", "m"]
  | hour => ["hours", "hour", "hr", "hrs", "h"]
  | day => ["days", "day", "d"]
  | week => ["weeks", "week", "wk", "wks", "w"]
  | month => ["months", "month", "M"]
  | year => ["years", "year", "yr", "yrs", "y"]

def all : List TimeUnit :=
  [nanosecond, microsecond, millisecond, second, minute, hour, day, week, month, year]

def ofSpelling? (s : String) : Option TimeUnit := all.find? (·.spellings.contains s)

/-- What a unit is counted in: so many nanoseconds, or so many seconds. -/
inductive Size where
  | nanoseconds (count : Nat)
  | seconds (count : Nat)
deriving DecidableEq, Repr

/-- The size of each unit.  A month is a twelfth of a year, and a year is 365.25 days. -/
def size : TimeUnit → Size
  | nanosecond => .nanoseconds 1
  | microsecond => .nanoseconds 1000
  | millisecond => .nanoseconds 1000000
  | second => .seconds 1
  | minute => .seconds 60
  | hour => .seconds 3600
  | day => .seconds 86400
  | week => .seconds 604800
  | month => .seconds 2630016
  | year => .seconds 31557600

/-- What a fraction of a unit is counted in, if a unit may have a fraction. -/
def fractionSize? : TimeUnit → Option Size
  | nanosecond => none
  | second => some (.nanoseconds 1000000000)
  | minute => some (.nanoseconds 60000000000)
  | u => some u.size

end TimeUnit

/-- A number of a part: its whole value, and the numerator and the denominator after the point. -/
structure Amount where
  whole : Nat
  fraction : Option (Nat × Nat)
deriving DecidableEq, Repr

def word? (n : Nat) : Except Fault Nat := if n < wordCount then .ok n else .error .invalid

def digitValue (c : Char) : Nat := c.toNat - 48

def isUnitChar (c : Char) : Bool := c.isAlpha || c = 'µ'

/-- The whole digits that continue a number, blanks between them left out, and the text after. -/
def wholeDigits (value : Nat) : List Char → Except Fault (Nat × List Char)
  | [] => .ok (value, [])
  | c :: rest =>
    if c.isDigit then do wholeDigits (← word? (10 * value + digitValue c)) rest
    else if isWhiteSpace c then wholeDigits value rest
    else .ok (value, c :: rest)

/-- The digits after a point, blanks between them left out, and the text after. -/
def fractionDigits (numerator denominator : Nat) :
    List Char → Except Fault ((Nat × Nat) × List Char)
  | [] => .ok ((numerator, denominator), [])
  | c :: rest =>
    if c.isDigit then do
      fractionDigits (← word? (10 * numerator + digitValue c)) (← word? (10 * denominator)) rest
    else if isWhiteSpace c then fractionDigits numerator denominator rest
    else .ok ((numerator, denominator), c :: rest)

/-- The number of a part after its first digit, and the text from its unit on. -/
def amount (first : Nat) (cs : List Char) : Except Fault (Amount × List Char) := do
  match ← wholeDigits first cs with
  | (whole, '.' :: rest) =>
    let ((numerator, denominator), rest) ← fractionDigits 0 1 rest
    if denominator = 1 then .error .invalid else .ok (⟨whole, some (numerator, denominator)⟩, rest)
  | (whole, rest) => .ok (⟨whole, none⟩, rest)

/-- The characters of a unit, and the text after it: a blank or a digit ends it, and any other
character is refused. -/
def unitChars : List Char → Except Fault (List Char × List Char)
  | [] => .ok ([], [])
  | c :: rest =>
    if isUnitChar c then do
      let (cs, rest) ← unitChars rest
      .ok (c :: cs, rest)
    else if c.isDigit || isWhiteSpace c then .ok ([], c :: rest)
    else .error .invalid

/-- A duration with more seconds and nanoseconds.  Full seconds of nanoseconds are carried with a
check, but exactly one of them is left to `make?`, which does not refuse but breaks off. -/
def plus (d : Duration) (seconds nanos : Nat) : Except Fault Duration := do
  let nanos ← word? (d.subsec + nanos)
  let seconds ← if 1000000000 < nanos then word? (seconds + nanos / 1000000000) else .ok seconds
  let nanos := if 1000000000 < nanos then nanos % 1000000000 else nanos
  let seconds ← word? (d.seconds.toNat + seconds)
  match make? seconds nanos with
  | some d => .ok d
  | none => .error .carry

def plusSize (d : Duration) (count : Nat) : TimeUnit.Size → Except Fault Duration
  | .nanoseconds n => do d.plus 0 (← word? (count * n))
  | .seconds s => do d.plus (← word? (count * s)) 0

/-- A duration with one part more, first the whole number and then the fraction of it. -/
def plusPart (d : Duration) (a : Amount) (unit : TimeUnit) : Except Fault Duration := do
  let d ← d.plusSize a.whole unit.size
  match a.fraction with
  | none => .ok d
  | some (numerator, denominator) =>
    match unit.fractionSize? with
    | none => .error .invalid
    | some (.nanoseconds n) =>
      let product ← word? (numerator * n)
      if product % denominator = 0 then d.plus 0 (product / denominator) else .error .invalid
    | some (.seconds s) =>
      let product ← word? (numerator * s)
      if product % denominator = 0 then d.plus (product / denominator) 0 else .error .invalid

/-- The parts of a duration from the first one on, each added to what there is.  `fuel` bounds the
number of parts, of which each has a character of its own. -/
def parts (fuel : Nat) (d : Duration) (cs : List Char) : Except Fault Duration :=
  match fuel, cs.dropWhile isWhiteSpace with
  | _, [] => .ok d
  | 0, _ => .error .invalid
  | fuel + 1, c :: rest =>
    if c.isDigit then do
      let (a, rest) ← amount (digitValue c) rest
      let (name, rest) ← unitChars rest
      match TimeUnit.ofSpelling? (String.ofList name) with
      | none => .error .invalid
      | some unit => parts fuel (← d.plusPart a unit) rest
    else .error .invalid

/-- Reads a duration.  A lone `0` needs no unit, and there must be at least one part. -/
def read (s : String) : Except Fault Duration :=
  let cs := s.toList
  if cs = ['0'] then .ok zero
  else if cs.all isWhiteSpace then .error .invalid
  else parts cs.length zero cs

end DimensionalMetrics.Duration
