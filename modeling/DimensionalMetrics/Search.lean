/-!
# Binary search

`partitionPoint` finds where a monotone test on indices turns from true to false.  Sorted tables of
the library (code point sets, string tables) are searched through it.
-/

namespace DimensionalMetrics

/-- The first index of `[lo, hi)` at which `before` fails, or `hi` if it fails nowhere, provided
that `before` never turns true again after it has failed. -/
def partitionPoint (before : Nat → Bool) (lo hi : Nat) : Nat :=
  if lo < hi then
    let mid := (lo + hi) / 2
    if before mid then partitionPoint before (mid + 1) hi else partitionPoint before lo mid
  else lo
termination_by hi - lo

theorem partitionPoint_of_le (before : Nat → Bool) {lo hi : Nat} (h : hi ≤ lo) :
    partitionPoint before lo hi = lo := by
  rw [partitionPoint, if_neg (Nat.not_lt.mpr h)]

/-- The search stays inside the interval that it was given. -/
theorem partitionPoint_bounds (before : Nat → Bool) (lo hi : Nat) (h : lo ≤ hi) :
    lo ≤ partitionPoint before lo hi ∧ partitionPoint before lo hi ≤ hi := by
  fun_induction partitionPoint before lo hi with
  | case1 lo hi hlt mid hb ih => have := ih (by omega); omega
  | case2 lo hi hlt mid hb ih => have := ih (by omega); omega
  | case3 lo hi hlt => omega

/-- **The search finds the turning point.**  If `before` holds exactly below `k`, then the result
is `k`. -/
theorem partitionPoint_eq {before : Nat → Bool} {lo hi k : Nat} (hlo : lo ≤ k) (hhi : k ≤ hi)
    (h : ∀ i, lo ≤ i → i < hi → (before i = true ↔ i < k)) :
    partitionPoint before lo hi = k := by
  fun_induction partitionPoint before lo hi with
  | case1 lo hi hlt mid hb ih =>
    have hk := (h mid (by omega) (by omega)).mp hb
    exact ih (by omega) hhi fun i hi₁ hi₂ => h i (by omega) hi₂
  | case2 lo hi hlt mid hb ih =>
    have hk : ¬ mid < k := fun hk => hb ((h mid (by omega) (by omega)).mpr hk)
    exact ih hlo (by omega) fun i hi₁ hi₂ => h i hi₁ (by omega)
  | case3 lo hi hlt => omega

end DimensionalMetrics
