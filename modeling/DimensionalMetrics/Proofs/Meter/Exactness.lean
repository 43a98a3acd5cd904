import DimensionalMetrics.Proofs.Meter.Squares

/-!
# Sums that need no rounding

Every natural number up to `2 ^ 53` is a number in double precision.  As long as the sum of a counter
stays in that range, or the count and the total of squares of a timer or a distribution summary, so does
everything that comes up on the way there, whichever update comes first.  Nothing is rounded then, or
clamped, or carried around, and the values of a meter are what its amounts come to as natural numbers.
These do not depend on the order of the amounts.
-/

namespace DimensionalMetrics

/-! ### What is added, and what it comes to -/

/-- What an update means to add, before it is made to fit into a word.  A negative amount is not
accepted. -/
def Update.contribution? : Update → Option Nat
  | add delta => some delta.toNat
  | recordTime d => some d.nanos
  | recordAmount a => if 0 ≤ a then some a.toInt.toNat else none
  | touch _ | set _ => none

def Update.contributions (us : List Update) : List Nat := us.filterMap contribution?

/-- The sum of the squares, without any rounding. -/
def squaresSum (amounts : List Nat) : Nat := (amounts.map fun a => a * a).sum

/-- What the values of a period with these amounts would be if nothing were rounded. -/
def exactTotals (totalStatistic : Statistic) (amounts : List Nat) : List (Statistic × Nat) :=
  [(.count, amounts.length), (totalStatistic, amounts.sum), (.totalOfSquares, squaresSum amounts),
    (.max, largestAmount amounts)]

namespace Kind

/-- What a meter of a kind would report of these amounts if nothing were rounded. -/
def exactValues : Kind → List Nat → List (Statistic × Nat)
  | counter, amounts => [(.count, amounts.sum)]
  | gauge, _ => []
  | timer, amounts => exactTotals .totalTime amounts
  | distributionSummary, amounts => exactTotals .totalAmount amounts

/-- A meter of a kind can add up these amounts within the first `2 ^ 53` natural numbers.  A gauge adds
nothing up. -/
def Fits : Kind → List Nat → Prop
  | counter, amounts => amounts.sum ≤ 2 ^ 53
  | gauge, _ => False
  | timer, amounts | distributionSummary, amounts =>
    amounts.length ≤ 2 ^ 53 ∧ squaresSum amounts ≤ 2 ^ 53

end Kind

theorem squaresSum_append (amounts : List Nat) (a : Nat) :
    squaresSum (amounts ++ [a]) = squaresSum amounts + a * a := by
  simp only [squaresSum, List.map_append, List.sum_append, List.map_singleton, List.sum_singleton]

theorem sum_le_squaresSum (amounts : List Nat) : amounts.sum ≤ squaresSum amounts := by
  have hle : (amounts.map id).sum ≤ squaresSum amounts :=
    List.sum_le_sum fun a _ => Nat.le_mul_self a
  rwa [List.map_id] at hle

theorem largestAmount_le_sum (amounts : List Nat) : largestAmount amounts ≤ amounts.sum := by
  induction amounts with
  | nil => exact Nat.le_refl 0
  | cons a rest ih =>
    rw [largestAmount, List.foldr_cons, List.sum_cons]
    exact Nat.max_le.mpr ⟨Nat.le_add_right _ _, ih.trans (Nat.le_add_left _ _)⟩

/-! ### Another order -/

section Reordered

variable {amounts amounts' : List Nat} (h : amounts.Perm amounts')
include h

theorem squaresSum_perm : squaresSum amounts = squaresSum amounts' := (h.map _).sum_nat

theorem exactTotals_perm (totalStatistic : Statistic) :
    exactTotals totalStatistic amounts = exactTotals totalStatistic amounts' := by
  have hlargest : largestAmount amounts = largestAmount amounts' := h.foldr_eq 0
  rw [exactTotals, h.length_eq, h.sum_nat, squaresSum_perm h, hlargest, exactTotals]

theorem Kind.exactValues_perm (kind : Kind) : kind.exactValues amounts = kind.exactValues amounts' := by
  cases kind with
  | counter => rw [exactValues, h.sum_nat, exactValues]
  | gauge => rfl
  | timer => exact exactTotals_perm h .totalTime
  | distributionSummary => exact exactTotals_perm h .totalAmount

theorem Kind.Fits.perm {kind : Kind} (hfits : kind.Fits amounts) : kind.Fits amounts' := by
  cases kind with
  | counter => exact h.sum_nat.symm.trans_le hfits
  | gauge => exact hfits
  | timer | distributionSummary =>
    exact ⟨h.length_eq.symm.trans_le hfits.1, (squaresSum_perm h).symm.trans_le hfits.2⟩

end Reordered

/-! ### Adding up squares -/

namespace Binary64

section Naturals

variable {x y : Binary64} {m n : Nat} (hx : x.IsNat m) (hy : y.IsNat n)
include hx hy

theorem IsNat.mulMagnitude (hle : m * n ≤ 2 ^ 53) : (mulMagnitude x y).IsNat (m * n) := by
  rw [mulMagnitude_eq_ofNat hx.value hy.value]
  exact isNat_ofNat hle

theorem IsNat.addMagnitude (hle : m + n ≤ 2 ^ 53) : (addMagnitude x y).IsNat (m + n) := by
  rw [addMagnitude_eq_ofNat hx.value hy.value]
  exact isNat_ofNat hle

end Naturals

/-- **A sum of squares up to `2 ^ 53` is exact.**  Every amount, every square and every sum on the way is
a natural number of that range, so none of the roundings changes anything. -/
theorem isNat_sumOfSquares {amounts : List Nat} (hsquares : squaresSum amounts ≤ 2 ^ 53) :
    (sumOfSquares amounts).IsNat (squaresSum amounts) := by
  induction amounts using List.reverseRecOn with
  | nil => exact isNat_ofNat (Nat.zero_le _)
  | append_singleton amounts a ih =>
    rw [squaresSum_append] at hsquares
    have hbefore : squaresSum amounts ≤ 2 ^ 53 := (Nat.le_add_right _ _).trans hsquares
    have hsquare : a * a ≤ 2 ^ 53 := (Nat.le_add_left _ _).trans hsquares
    have hamount : (ofNat a).IsNat a := isNat_ofNat ((Nat.le_mul_self a).trans hsquare)
    rw [sumOfSquares_append, squaresSum_append]
    exact (ih hbefore).addMagnitude (hamount.mulMagnitude hamount hsquare) hsquares

/-- Just above `2 ^ 53` the order matters: two squares of one are lost after a large square, and are not
lost before it. -/
example : sumOfSquares [94906266, 1, 1] ≠ sumOfSquares [1, 1, 94906266] := by decide +kernel

end Binary64

/-! ### The values of a cell -/

/-- A value that is not rounded, in double precision. -/
def inDoublePrecision (e : Statistic × Nat) : Statistic × Binary64 := (e.1, .ofNat e.2)

theorem Totals.values_ofAmounts {amounts : List Nat} (hlength : amounts.length ≤ 2 ^ 53)
    (hsquares : squaresSum amounts ≤ 2 ^ 53) (totalStatistic : Statistic) :
    (ofAmounts amounts).values totalStatistic =
      (exactTotals totalStatistic amounts).map inDoublePrecision := by
  have hsum : amounts.sum ≤ 2 ^ 53 := (sum_le_squaresSum amounts).trans hsquares
  have hword : 2 ^ 53 < wordCount := by decide
  have hwords : ∀ a ∈ amounts, a < wordCount := fun a ha =>
    ((List.le_sum_of_mem ha).trans hsum).trans_lt hword
  have hcount : (ofAmounts amounts).count = amounts.length := by
    rw [count_ofAmounts, Nat.mod_eq_of_lt (hlength.trans_lt hword)]
  have htotal : (ofAmounts amounts).total = amounts.sum := by
    rw [total_ofAmounts]
    exact Nat.min_eq_right (hsum.trans (by decide))
  have hexact : Binary64.ofNat (ofAmounts amounts).totalOfSquares = .ofNat (squaresSum amounts) :=
    (exact_ofAmounts hwords).value.trans (Binary64.isNat_sumOfSquares hsquares).eq_ofNat
  simp only [values, hcount, htotal, hexact, max_ofAmounts, exactTotals, List.map_cons, List.map_nil,
    inDoublePrecision]

/-- An exact value is one of the first `2 ^ 53` natural numbers. -/
theorem Kind.Fits.le {kind : Kind} {amounts : List Nat} (h : kind.Fits amounts)
    {e : Statistic × Nat} (he : e ∈ kind.exactValues amounts) : e.2 ≤ 2 ^ 53 := by
  have hperiod : ∀ totalStatistic, amounts.length ≤ 2 ^ 53 → squaresSum amounts ≤ 2 ^ 53 →
      e ∈ exactTotals totalStatistic amounts → e.2 ≤ 2 ^ 53 := by
    intro totalStatistic hlength hsquares he
    have hsum : amounts.sum ≤ 2 ^ 53 := (sum_le_squaresSum amounts).trans hsquares
    simp only [exactTotals, List.mem_cons, List.not_mem_nil, or_false] at he
    rcases he with rfl | rfl | rfl | rfl
    · exact hlength
    · exact hsum
    · exact hsquares
    · exact (largestAmount_le_sum amounts).trans hsum
  cases kind with
  | counter =>
    rw [exactValues, List.mem_singleton] at he
    rw [he]
    exact h
  | gauge => exact h.elim
  | timer | distributionSummary => exact hperiod _ h.1 h.2 he

namespace Update

theorem contributions_counter {us : List Update} (hkind : ∀ u ∈ us, u.kind = .counter) :
    (us.filterMap delta?).map UInt64.toNat = contributions us := by
  rw [List.map_filterMap]
  apply List.filterMap_congr
  intro u hu
  have hu' := hkind u hu
  cases u with
  | touch | add => rfl
  | set | recordTime | recordAmount => cases hu'

/-- No amount that is a word is clamped. -/
theorem filterMap_amount? {us : List Update} (hkind : ∀ u ∈ us, u.kind ≠ .counter)
    (hwords : ∀ a ∈ contributions us, a ≤ largestWord) :
    us.filterMap amount? = contributions us := by
  apply List.filterMap_congr
  intro u hu
  cases u with
  | add delta => exact absurd rfl (hkind _ hu)
  | recordTime d =>
    have hword : d.nanos ≤ largestWord := hwords _ (List.mem_filterMap.mpr ⟨_, hu, rfl⟩)
    rw [amount?, Nat.min_eq_left hword, contribution?]
  | touch | set | recordAmount => rfl

end Update

theorem Content.values_ofUpdates {kind : Kind} {us : List Update} (hkind : ∀ u ∈ us, u.kind = kind)
    (hfits : kind.Fits (Update.contributions us)) : (ofUpdates kind us).values =
      (kind.exactValues (Update.contributions us)).map inDoublePrecision := by
  have hamounts : kind ≠ .counter → squaresSum (Update.contributions us) ≤ 2 ^ 53 →
      us.filterMap Update.amount? = Update.contributions us := by
    intro hcounter hsquares
    apply Update.filterMap_amount?
    · exact fun u hu => hkind u hu ▸ hcounter
    · intro a ha
      have hsum := (sum_le_squaresSum _).trans hsquares
      exact ((List.le_sum_of_mem ha).trans hsum).trans (by decide)
  cases kind with
  | counter =>
    have hword : (Update.contributions us).sum < wordCount := hfits.trans_lt (by decide)
    rw [ofUpdates_counter, Update.contributions_counter hkind, Nat.mod_eq_of_lt hword]
    rfl
  | gauge => exact hfits.elim
  | timer =>
    rw [ofUpdates_timer hkind, hamounts nofun hfits.2]
    exact Totals.values_ofAmounts hfits.1 hfits.2 .totalTime
  | distributionSummary =>
    rw [ofUpdates_distributionSummary hkind, hamounts nofun hfits.2]
    exact Totals.values_ofAmounts hfits.1 hfits.2 .totalAmount

/-- **The values of a cell are what is pending in it, exactly.** -/
theorem Cell.Reached.values_eq {kind : Kind} {events : List CellEvent} {c : Cell}
    (h : c.Reached kind events)
    (hfits : kind.Fits (Update.contributions (CellEvent.pending events))) : c.values =
      (kind.exactValues (Update.contributions (CellEvent.pending events))).map
        inDoublePrecision := by
  rw [← Cell.values_content, h.content_eq]
  exact Content.values_ofUpdates h.kind_of_mem_pending hfits

end DimensionalMetrics
