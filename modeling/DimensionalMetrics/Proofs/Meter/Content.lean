import DimensionalMetrics.Proofs.Meter.Accumulation

/-!
# What a cell means

A cell keeps words and bit patterns.  What they mean is simpler: a number below `2 ^ 64`, a value or
none, or the four totals of a period.  Updating, resetting, reading and looking can all be said in
these terms alone, and here each of them is shown to be what the cell does.
-/

namespace DimensionalMetrics

/-- The totals of a period, as numbers.  The count starts over at `2 ^ 64`, the total stays at the
largest word, and squares are added up in double precision. -/
structure Totals where
  count : Nat
  total : Nat
  totalOfSquares : Nat
  max : Nat
deriving DecidableEq

namespace Totals

def zero : Totals := ⟨0, 0, 0, 0⟩

def record (t : Totals) (amount : Nat) : Totals where
  count := (t.count + 1) % wordCount
  total := min largestWord (t.total + amount)
  totalOfSquares := Binary64.roundNat (t.totalOfSquares +
    Binary64.roundNat (Binary64.roundNat amount * Binary64.roundNat amount))
  max := Nat.max t.max amount

def values (t : Totals) (totalStatistic : Statistic) : List (Statistic × Binary64) :=
  [(.count, .ofNat t.count), (totalStatistic, .ofNat t.total),
    (.totalOfSquares, .ofNat t.totalOfSquares), (.max, .ofNat t.max)]

end Totals

/-- What a meter of each kind has in it. -/
inductive Content where
  | counter (sum : Nat)
  | gauge (value : Option Binary64)
  | timer (totals : Totals)
  | distributionSummary (totals : Totals)
deriving DecidableEq

/-- A value to be set; a pattern that is no number sets none. -/
def Binary64.number? (x : Binary64) : Option Binary64 := if x.isNaN then none else some x

namespace Content

def kind : Content → Kind
  | counter _ => .counter
  | gauge _ => .gauge
  | timer _ => .timer
  | distributionSummary _ => .distributionSummary

def fresh : Kind → Content
  | .counter => counter 0
  | .gauge => gauge none
  | .timer => timer .zero
  | .distributionSummary => distributionSummary .zero

def update : Content → Update → Content
  | counter n, .add delta => counter ((n + delta.toNat) % wordCount)
  | gauge _, .set x => gauge x.number?
  | timer t, .recordTime d => timer (t.record (min d.nanos largestWord))
  | distributionSummary t, .recordAmount a =>
    distributionSummary (if 0 ≤ a then t.record a.toInt.toNat else t)
  | c, _ => c

def reset (c : Content) : Content := fresh c.kind

def values : Content → List (Statistic × Binary64)
  | counter n => [(.count, .ofNat n)]
  | gauge x => x.toList.map fun x => (.gauge, x)
  | timer t => t.values .totalTime
  | distributionSummary t => t.values .totalAmount

def view : Content → Cell.View
  | counter n => .count (.ofNat n)
  | gauge x => .level x
  | timer t => .totals (.ofNat t.count) (.ofNat t.total)
  | distributionSummary t => .totals (.ofNat t.count) (.ofNat t.total)

@[simp] theorem kind_fresh (k : Kind) : (fresh k).kind = k := by cases k <;> rfl

end Content

/-! ### What a cell does is what its contents say -/

def Period.totals (p : Period) : Totals :=
  ⟨p.count.toNat, p.total.toNat, p.totalOfSquares, p.max.toNat⟩

theorem Period.totals_record (p : Period) (amount : UInt64) :
    (p.record amount).totals = p.totals.record amount.toNat := by
  have hcount : (p.count + 1).toNat = (p.count.toNat + 1) % wordCount := UInt64.toNat_add _ _
  have htotal : (saturatingAdd p.total amount).toNat =
      min largestWord (p.total.toNat + amount.toNat) := by
    rw [toNat_saturatingAdd, Nat.min_comm]
  have hmax : (if p.max < amount then amount else p.max).toNat = Nat.max p.max.toNat amount.toNat :=
    toNat_larger p.max amount
  simp only [totals, record, Totals.record, hcount, htotal, hmax, square]

namespace Cell

/-- What a cell means. -/
def content : Cell → Content
  | counter n => .counter n.toNat
  | gauge x => .gauge x.number?
  | timer p => .timer p.totals
  | distributionSummary p => .distributionSummary p.totals

@[simp] theorem kind_content (c : Cell) : c.content.kind = c.kind := by cases c <;> rfl

@[simp] theorem content_fresh (k : Kind) : (fresh k).content = .fresh k := by cases k <;> rfl

theorem content_reset (c : Cell) : c.reset.content = c.content.reset := by
  rw [reset, content_fresh, Content.reset, kind_content]

theorem content_update (c : Cell) (u : Update) : (c.update u).content = c.content.update u := by
  -- Of each kind of cell one update is of its own kind, and the others leave it alone.
  cases c with
  | counter n =>
    cases u with
    | add delta => exact congrArg Content.counter (UInt64.toNat_add n delta)
    | touch | set | recordTime | recordAmount => rfl
  | gauge x =>
    cases u <;> rfl
  | timer p =>
    cases u with
    | recordTime d =>
      have htotals := p.totals_record d.clampedNanos
      rw [toNat_clampedNanos] at htotals
      exact congrArg Content.timer htotals
    | touch | add | set | recordAmount => rfl
  | distributionSummary p =>
    cases u with
    | recordAmount a =>
      by_cases ha : 0 ≤ a
      · have hword : a.toUInt64.toNat = a.toInt.toNat := Int64.toNat_toUInt64_of_le ha
        have htotals := p.totals_record a.toUInt64
        rw [hword] at htotals
        simp only [update, content, Content.update, if_pos ha, htotals]
      · simp only [update, content, Content.update, if_neg ha]
    | touch | add | set | recordTime => rfl

theorem values_content (c : Cell) : c.content.values = c.values := by
  cases c with
  | counter n => rfl
  | gauge x =>
    simp only [content, Content.values, values, Binary64.number?]
    split <;> rfl
  | timer p => rfl
  | distributionSummary p => rfl

theorem view_content (c : Cell) : c.content.view = c.view := by
  cases c with
  | counter n => exact congrArg View.count UInt64.ofNat_toNat
  | gauge x => rfl
  | timer p => exact congrArg₂ View.totals UInt64.ofNat_toNat UInt64.ofNat_toNat
  | distributionSummary p => exact congrArg₂ View.totals UInt64.ofNat_toNat UInt64.ofNat_toNat

/-- A cell that was reset reports what it reported before, with zero for every value, and no value
of a gauge. -/
theorem values_reset (c : Cell) :
    c.reset.values = (c.values.filter (·.1 ≠ .gauge)).map fun v => (v.1, .zero) := by
  cases c with
  | counter n => rfl
  | gauge x =>
    have hnone : (gauge x).reset.values = [] := rfl
    rw [hnone, values]
    split <;> rfl
  | timer p => rfl
  | distributionSummary p => rfl

end Cell

theorem Meter.measurements_reset (m : Meter) : m.reset.measurements =
    (m.measurements.filter (·.statistic ≠ .gauge)).map fun x => { x with value := .zero } := by
  have hvalues : m.reset.cell.values = _ := m.cell.values_reset
  simp only [measurements, hvalues, List.filter_map, List.map_map, Function.comp_def]
  rfl

end DimensionalMetrics
