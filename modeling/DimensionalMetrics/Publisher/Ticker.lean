import DimensionalMetrics.Time.Duration

/-!
# Tickers

A publisher works at ticks.  A ticker holds the instant at which the next tick is due and the time
between ticks.  Ticks are meant to lie one period apart without drift; only when one is handled more
than five milliseconds late does the next one count from the handling.

Instants are nanoseconds on a clock that never goes back.  They are limited: an instant later than
the clock can hold is an overflow.
-/

namespace DimensionalMetrics

def millisecond : Nat := 1000000

/-- The first instant that the clock cannot hold: its seconds are a signed word. -/
def clockLimit : Nat := signBit * 1000000000

/-- The instant that lies a span of time after another, unless it is beyond the clock. -/
def later? (instant nanos : Nat) : Option Nat :=
  if instant + nanos < clockLimit then some (instant + nanos) else none

/-- The first whole millisecond that is not before an instant: timers have no finer grain. -/
def ceilMillis (instant : Nat) : Nat := (instant + (millisecond - 1)) / millisecond * millisecond

theorem le_ceilMillis (instant : Nat) : instant ≤ ceilMillis instant := by
  simp only [ceilMillis, millisecond]
  omega

theorem ceilMillis_mul (n : Nat) : ceilMillis (n * millisecond) = n * millisecond := by
  simp only [ceilMillis, millisecond]
  omega

/-- The instant of the next tick and the time between ticks. -/
structure Ticker where
  deadline : Nat
  period : Nat
deriving DecidableEq, Repr

namespace Ticker

/-- How late a tick may be handled before the ones after it are put off. -/
def tolerance : Nat := 5 * millisecond

/-- A ticker whose first tick is one period away. -/
def start? (now : Nat) (frequency : Duration) : Option Ticker :=
  (later? now frequency.nanos).map fun deadline => ⟨deadline, frequency.nanos⟩

/-- When the timer of the next tick goes off. -/
def due (t : Ticker) : Nat := ceilMillis t.deadline

/-- The ticker after a tick that is handled at an instant. -/
def next? (t : Ticker) (now : Nat) : Option Ticker :=
  (later? (if now ≤ t.deadline + tolerance then t.deadline else now) t.period).map fun deadline =>
    { t with deadline }

end Ticker

end DimensionalMetrics
