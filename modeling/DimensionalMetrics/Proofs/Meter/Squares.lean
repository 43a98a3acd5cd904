import DimensionalMetrics.Proofs.Meter.Pending

/-!
# The total of squares in double precision

A period keeps its total of squares as a natural number.  Here it is shown to be the number that
arithmetic in double precision comes to: every amount is rounded, so is its square, and so is every
sum, and each of these could become infinite.  None of them does.
-/

namespace DimensionalMetrics

namespace Binary64

/-- The sum of two nonnegative finite numbers, rounded. -/
def addMagnitude (x y : Binary64) : Binary64 :=
  ofRatio (x.numerator * y.denominator + y.numerator * x.denominator)
    (x.denominator * y.denominator)

/-- The squares of some amounts, added up one by one. -/
def sumOfSquares (amounts : List Nat) : Binary64 :=
  amounts.foldl (fun t a => addMagnitude t (mulMagnitude (ofNat a) (ofNat a))) zero

theorem sumOfSquares_append (amounts : List Nat) (a : Nat) : sumOfSquares (amounts ++ [a]) =
    addMagnitude (sumOfSquares amounts) (mulMagnitude (ofNat a) (ofNat a)) := by
  simp only [sumOfSquares, List.foldl_append, List.foldl_cons, List.foldl_nil]

section Values

variable {x y : Binary64} {m n : Nat} (hx : (x.numerator : ℚ) / x.denominator = m)
  (hy : (y.numerator : ℚ) / y.denominator = n)
include hx hy

theorem mulMagnitude_eq_ofNat : mulMagnitude x y = ofNat (m * n) := by
  apply ofRatio_congr (Nat.mul_pos x.denominator_pos y.denominator_pos) Nat.one_pos
  push_cast
  rw [mul_div_mul_comm, hx, hy, div_one]

theorem addMagnitude_eq_ofNat : addMagnitude x y = ofNat (m + n) := by
  have hx₀ : (x.denominator : ℚ) ≠ 0 := by exact_mod_cast x.denominator_pos.ne'
  have hy₀ : (y.denominator : ℚ) ≠ 0 := by exact_mod_cast y.denominator_pos.ne'
  apply ofRatio_congr (Nat.mul_pos x.denominator_pos y.denominator_pos) Nat.one_pos
  push_cast
  rw [div_one, ← hx, ← hy, div_add_div _ _ hx₀ hy₀,
    mul_comm (x.denominator : ℚ) (y.numerator : ℚ)]

end Values

theorem mulMagnitude_ofNat {m n : Nat} (hm : m < 2 ^ 256) (hn : n < 2 ^ 256) :
    mulMagnitude (ofNat m) (ofNat n) = ofNat (roundNat m * roundNat n) :=
  mulMagnitude_eq_ofNat (magnitude_ofNat hm) (magnitude_ofNat hn)

theorem addMagnitude_ofNat {m n : Nat} (hm : m < 2 ^ 256) (hn : n < 2 ^ 256) :
    addMagnitude (ofNat m) (ofNat n) = ofNat (roundNat m + roundNat n) :=
  addMagnitude_eq_ofNat (magnitude_ofNat hm) (magnitude_ofNat hn)

end Binary64

namespace Totals

open Binary64

/-- What is known of a total of squares after each record: it is small, it is rounded, and it is what
double precision says. -/
structure Exact (amounts : List Nat) (squares : Nat) : Prop where
  le : squares ≤ 2 ^ 182
  rounded : roundNat squares = squares
  value : ofNat squares = sumOfSquares amounts

theorem Exact.record {amounts : List Nat} {squares : Nat} (h : Exact amounts squares) {a : Nat}
    (ha : a ≤ 2 ^ 64) : Exact (amounts ++ [a])
      (roundNat (squares + roundNat (roundNat a * roundNat a))) := by
  have hproduct : roundNat a * roundNat a ≤ 2 ^ 128 := mul_self_roundNat_le ha
  have hsquare : roundNat (roundNat a * roundNat a) ≤ 2 ^ 128 := roundNat_le hproduct
  have hle := h.le
  have hsum : squares + roundNat (roundNat a * roundNat a) ≤ 2 ^ 255 := by omega
  have htwice : roundNat (roundNat (roundNat a * roundNat a)) = roundNat (roundNat a * roundNat a) :=
    roundNat_roundNat (hproduct.trans (by decide))
  constructor
  case le => exact roundNat_add_le h.le hsquare
  case rounded => exact roundNat_roundNat hsum
  case value =>
    calc ofNat (roundNat (squares + roundNat (roundNat a * roundNat a)))
        = ofNat (squares + roundNat (roundNat a * roundNat a)) := ofNat_roundNat (by omega)
      _ = addMagnitude (ofNat squares) (ofNat (roundNat (roundNat a * roundNat a))) := by
          rw [addMagnitude_ofNat (by omega) (by omega), h.rounded, htwice]
      _ = addMagnitude (sumOfSquares amounts) (mulMagnitude (ofNat a) (ofNat a)) := by
          rw [h.value, ofNat_roundNat (by omega), mulMagnitude_ofNat (by omega) (by omega)]
      _ = sumOfSquares (amounts ++ [a]) := (sumOfSquares_append amounts a).symm

/-- **The total of squares is that of double precision**, for any number of amounts. -/
theorem exact_ofAmounts {amounts : List Nat} (hamounts : ∀ a ∈ amounts, a < wordCount) :
    Exact amounts (ofAmounts amounts).totalOfSquares := by
  induction amounts using List.reverseRecOn with
  | nil => exact ⟨Nat.zero_le _, rfl, rfl⟩
  | append_singleton amounts a ih =>
    rw [List.forall_mem_append, List.forall_mem_singleton] at hamounts
    rw [ofAmounts_append]
    exact (ih hamounts.1).record (Nat.le_of_lt hamounts.2)

theorem exact_ofUpdates (us : List Update) : Exact (us.filterMap Update.amount?)
    (ofAmounts (us.filterMap Update.amount?)).totalOfSquares := by
  apply exact_ofAmounts
  intro a ha
  obtain ⟨u, -, hu⟩ := List.mem_filterMap.mp ha
  exact Update.lt_of_amount? hu

end Totals

end DimensionalMetrics
