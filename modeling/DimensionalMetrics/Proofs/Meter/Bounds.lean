import DimensionalMetrics.Proofs.Meter.Accumulation
import DimensionalMetrics.Proofs.Number.Naturals

/-!
# How far a meter can get

Counts, totals and largest amounts are words.  A total of squares is not, but each square is at most
`2 ^ 128`, and that is lost beside `2 ^ 182`, so the total never gets beyond.  All of these are far
from infinity; the only values that are not finite are those to which a gauge was set.
-/

namespace DimensionalMetrics

theorem Period.square_le (amount : UInt64) : square amount ≤ 2 ^ 128 :=
  Binary64.roundNat_le (Binary64.mul_self_roundNat_le amount.toNat_lt.le)

theorem Period.totalOfSquares_record {p : Period} (hp : p.totalOfSquares ≤ 2 ^ 182)
    (amount : UInt64) : (p.record amount).totalOfSquares ≤ 2 ^ 182 :=
  Binary64.roundNat_add_le hp (square_le amount)

namespace Cell

/-- Where the total of squares of a cell stops. -/
def Bounded (c : Cell) : Prop := ∀ p, c.period? = some p → p.totalOfSquares ≤ 2 ^ 182

theorem bounded_fresh (kind : Kind) : (fresh kind).Bounded := by
  intro p hp
  cases kind with
  | counter => cases hp
  | gauge => cases hp
  | timer =>
    cases hp
    exact Nat.zero_le _
  | distributionSummary =>
    cases hp
    exact Nat.zero_le _

theorem Bounded.update {c : Cell} (hc : c.Bounded) (u : Update) : (c.update u).Bounded := by
  cases c with
  | counter n => cases u <;> exact fun p hp => nomatch hp
  | gauge x => cases u <;> exact fun p hp => nomatch hp
  | timer q =>
    cases u with
    | recordTime d =>
      intro p hp
      cases hp
      exact Period.totalOfSquares_record (hc q rfl) _
    | touch | add | set | recordAmount => exact hc
  | distributionSummary q =>
    cases u with
    | recordAmount a =>
      simp only [Cell.update]
      split
      · intro p hp
        cases hp
        exact Period.totalOfSquares_record (hc q rfl) _
      · exact hc
    | touch | add | set | recordTime => exact hc

theorem Reached.bounded {kind : Kind} {events : List CellEvent} {c : Cell}
    (h : Reached kind events c) : c.Bounded := by
  induction h with
  | fresh => exact bounded_fresh kind
  | update _ _ ih => exact ih.update _
  | take => exact bounded_fresh _

/-- A gauge that was set to an infinity. -/
def isInfinite : Cell → Bool
  | gauge x => !x.isFinite && !x.isNaN
  | _ => false

theorem isFinite_of_mem_period {p : Period} (hp : p.totalOfSquares ≤ 2 ^ 182) {total : Statistic}
    {v : Statistic × Binary64} (hv : v ∈ p.values total) : v.2.isFinite = true := by
  have hword : ∀ n : UInt64, (Binary64.ofNat n.toNat).isFinite = true := by
    intro n
    apply Binary64.isFinite_ofNat
    exact n.toNat_lt.trans (by decide)
  simp only [Period.values, List.mem_cons, List.not_mem_nil, or_false] at hv
  rcases hv with rfl | rfl | rfl | rfl
  · exact hword p.count
  · exact hword p.total
  · apply Binary64.isFinite_ofNat
    exact hp.trans_lt (by decide)
  · exact hword p.max

theorem Bounded.isFinite_of_mem_values {c : Cell} (hc : c.Bounded) {v : Statistic × Binary64}
    (hv : v ∈ c.values) : v.2.isFinite = !c.isInfinite := by
  cases c with
  | counter n =>
    rw [values, List.mem_singleton] at hv
    rw [hv]
    exact Binary64.isFinite_ofNat (n.toNat_lt.trans (by decide))
  | gauge x =>
    cases hx : x.isNaN with
    | true =>
      rw [values, if_pos hx] at hv
      cases hv
    | false =>
      rw [values, if_neg (by simp [hx]), List.mem_singleton] at hv
      simp [hv, isInfinite, hx]
  | timer p => exact isFinite_of_mem_period (hc p rfl) hv
  | distributionSummary p => exact isFinite_of_mem_period (hc p rfl) hv

theorem values_ne_nil_of_isInfinite {c : Cell} (h : c.isInfinite = true) : c.values ≠ [] := by
  cases c with
  | gauge x =>
    have hnan : x.isNaN = false := by
      simp only [isInfinite, Bool.and_eq_true, Bool.not_eq_true'] at h
      exact h.2
    rw [values, hnan]
    exact List.cons_ne_nil _ _
  | counter | timer | distributionSummary => cases h

end Cell

end DimensionalMetrics
