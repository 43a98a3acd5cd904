import DimensionalMetrics.Period
import DimensionalMetrics.Time.Duration

/-!
# Meters

A meter is an identity with a cell in which updates accumulate.  To measure a meter is to take the
values of its cell and to reset it, so that a value is reported once.
-/

namespace DimensionalMetrics

/-- What a meter of each kind has accumulated since it was last measured. -/
inductive Cell where
  /-- The sum of what was added, modulo `2 ^ 64`. -/
  | counter (count : UInt64)
  /-- The value that was set last; a pattern that is no number stands for "not set". -/
  | gauge (value : Binary64)
  /-- Recorded times in nanoseconds. -/
  | timer (period : Period)
  /-- Recorded amounts. -/
  | distributionSummary (period : Period)
deriving DecidableEq

/-- An update of a cell, or a look at it. -/
inductive Update where
  /-- Get or create the meter, and leave it as it is. -/
  | touch (kind : Kind)
  | add (delta : UInt64)
  | set (value : Binary64)
  | recordTime (duration : Duration)
  | recordAmount (amount : Int64)
deriving DecidableEq

def Update.kind : Update → Kind
  | touch kind => kind
  | add _ => .counter
  | set _ => .gauge
  | recordTime _ => .timer
  | recordAmount _ => .distributionSummary

namespace Cell

def kind : Cell → Kind
  | counter _ => .counter
  | gauge _ => .gauge
  | timer _ => .timer
  | distributionSummary _ => .distributionSummary

def fresh : Kind → Cell
  | .counter => counter 0
  | .gauge => gauge .notANumber
  | .timer => timer .empty
  | .distributionSummary => distributionSummary .empty

@[simp] theorem kind_fresh (k : Kind) : (fresh k).kind = k := by cases k <;> rfl

/-- The cell after an update.  A negative amount is not recorded, and an update of another kind of
meter does nothing. -/
def update : Cell → Update → Cell
  | counter n, .add delta => counter (n + delta)
  | gauge _, .set x => gauge x
  | timer p, .recordTime d => timer (p.record d.clampedNanos)
  | distributionSummary p, .recordAmount a =>
    if 0 ≤ a then distributionSummary (p.record a.toUInt64) else distributionSummary p
  | c, _ => c

/-- An update never turns a cell into one of another kind. -/
@[simp] theorem kind_update (c : Cell) (u : Update) : (c.update u).kind = c.kind := by
  cases c <;> cases u <;> simp only [update] <;> (try split) <;> rfl

def values : Cell → List (Statistic × Binary64)
  | counter n => [(.count, .ofNat n.toNat)]
  | gauge x => if x.isNaN then [] else [(.gauge, x)]
  | timer p => p.values .totalTime
  | distributionSummary p => p.values .totalAmount

def reset (c : Cell) : Cell := fresh c.kind

@[simp] theorem kind_reset (c : Cell) : c.reset.kind = c.kind := kind_fresh c.kind

/-- What a look at a cell shows, without a reset. -/
inductive View where
  | count (n : UInt64)
  | level (value : Option Binary64)
  | totals (count total : UInt64)
deriving DecidableEq

def view : Cell → View
  | counter n => .count n
  | gauge x => .level (if x.isNaN then none else some x)
  | timer p => .totals p.count p.total
  | distributionSummary p => .totals p.count p.total

end Cell

/-- A meter: who it is and what it has accumulated. -/
structure Meter where
  id : Id
  cell : Cell
deriving DecidableEq

namespace Meter

def fresh (id : Id) (kind : Kind) : Meter := ⟨id, .fresh kind⟩

def kind (m : Meter) : Kind := m.cell.kind

/-- The values that a meter reports when it is measured. -/
def measurements (m : Meter) : List Measurement :=
  m.cell.values.map fun (statistic, value) => ⟨m.id, statistic, value⟩

def reset (m : Meter) : Meter := { m with cell := m.cell.reset }

def update (m : Meter) (u : Update) : Meter := { m with cell := m.cell.update u }

def describe (m : Meter) : String :=
  "Meter \x7b id: " ++ m.id.describe ++ ", kind: " ++ m.kind.name ++ " \x7d"

end Meter

end DimensionalMetrics
