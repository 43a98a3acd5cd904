import DimensionalMetrics.Proofs.Number.Rounding

/-!
# The shortest decimal reads back

A decimal is offered as the shortest one only after it was read back, and when none was offered the
exact decimal is given, which reads back because it has the same value as the number.  So the digits
that are searched first, and how many grids are tried, matter for the length of the result and not for
what it reads as.
-/

namespace DimensionalMetrics

namespace Decimal

/-- The number that a decimal is, unrounded. -/
def value (d : Decimal) : ℚ := d.coefficient * 10 ^ d.exponent

theorem value_eq_div (d : Decimal) :
    d.value = ((d.coefficient * 10 ^ d.exponent.toNat : Nat) : ℚ) / (10 ^ (-d.exponent).toNat : Nat) := by
  rw [value, zpow_eq_div_toNat]
  push_cast
  ring

theorem toBinary64_eq_of_value {d : Decimal} {n k : Nat} (hk : 0 < k) (h : d.value = (n : ℚ) / k) :
    d.toBinary64 = Binary64.ofRatio n k := by
  rw [value_eq_div] at h
  simp only [toBinary64, Nat.pow_eq]
  exact Binary64.ofRatio_congr (by positivity) hk h

theorem toBinary64_congr {d d' : Decimal} (h : d.value = d'.value) : d.toBinary64 = d'.toBinary64 := by
  rw [value_eq_div d'] at h
  rw [toBinary64_eq_of_value (by positivity) h]
  simp only [toBinary64, Nat.pow_eq]

theorem toBinary64_of_firstOf {x : Binary64} {a b d : Decimal}
    (h : (if a.toBinary64 = x then some a else if b.toBinary64 = x then some b else none) = some d) :
    d.toBinary64 = x := by
  split at h
  · rename_i ha
    rw [← Option.some.inj h]
    exact ha
  · split at h
    · rename_i hb
      rw [← Option.some.inj h]
      exact hb
    · cases h

theorem toBinary64_of_onGrid? {x : Binary64} {exponent : Int} {d : Decimal}
    (h : onGrid? x exponent = some d) : d.toBinary64 = x :=
  toBinary64_of_firstOf h

theorem toBinary64_exact {x : Binary64} (hf : x.isFinite = true) (hs : x.isNegative = false) :
    (exact x).toBinary64 = x := by
  obtain ⟨k, hk⟩ : ∃ k, x.denominator = 2 ^ k := ⟨_, rfl⟩
  have hvalue : (exact x).value = (x.numerator : ℚ) / x.denominator := by
    have hten : (10 : ℚ) ^ k = 2 ^ k * 5 ^ k := by
      rw [← mul_pow]
      norm_num
    simp only [value, exact, hk, Nat.log2_two_pow, Nat.pow_eq, zpow_neg, zpow_natCast, hten]
    push_cast
    rw [← div_eq_mul_inv, mul_div_mul_right _ _ (by positivity)]
  rw [toBinary64_eq_of_value x.denominator_pos hvalue]
  exact Binary64.ofRatio_magnitude hf hs

theorem toBinary64_shortestFrom {x : Binary64} (hf : x.isFinite = true) (hs : x.isNegative = false)
    (leading : Int) (fuel count : Nat) : (shortestFrom x leading fuel count).toBinary64 = x := by
  induction fuel generalizing count with
  | zero => exact toBinary64_exact hf hs
  | succ fuel ih =>
    rw [shortestFrom]
    split
    · rename_i d hd
      exact toBinary64_of_onGrid? hd
    · exact ih (count + 1)

/-- **The shortest decimal of a number reads back as that number.** -/
theorem toBinary64_shortest {x : Binary64} (hf : x.isFinite = true) (hs : x.isNegative = false) :
    (shortest x).toBinary64 = x :=
  toBinary64_shortestFrom hf hs _ _ _

theorem coefficient_shortest_ne_zero {x : Binary64} (hf : x.isFinite = true)
    (hs : x.isNegative = false) (hz : x.isZero = false) : (shortest x).coefficient ≠ 0 := by
  intro h
  have hx := toBinary64_shortest hf hs
  rw [toBinary64, h, Nat.zero_mul, Binary64.ofRatio, if_pos rfl] at hx
  rw [← hx] at hz
  exact absurd hz (by decide)

end Decimal

namespace Binary64

/-! ### The sign -/

theorem toNat_bits_negate (x : Binary64) :
    x.negate.bits.toNat % 2 ^ 63 = x.bits.toNat % 2 ^ 63 ∧
      (2 ^ 63 ≤ x.negate.bits.toNat ↔ x.bits.toNat < 2 ^ 63) := by
  have hlt := x.bits.toNat_lt
  have hlt' := x.negate.bits.toNat_lt
  have hxor : x.negate.bits.toNat = x.bits.toNat ^^^ 2 ^ 63 := by
    rw [negate, UInt64.toNat_xor]
    rfl
  have hmod : x.negate.bits.toNat % 2 ^ 63 = x.bits.toNat % 2 ^ 63 := by
    rw [hxor, Nat.xor_mod_two_pow, Nat.mod_self, Nat.xor_zero]
  have hdiv : x.negate.bits.toNat / 2 ^ 63 = x.bits.toNat / 2 ^ 63 ^^^ 1 := by
    rw [hxor, Nat.xor_div_two_pow, Nat.div_self (by positivity)]
  refine ⟨hmod, ?_⟩
  have hcases : x.bits.toNat / 2 ^ 63 = 0 ∨ x.bits.toNat / 2 ^ 63 = 1 := by omega
  rcases hcases with h | h
  · rw [h] at hdiv
    have : x.negate.bits.toNat / 2 ^ 63 = 1 := hdiv
    omega
  · rw [h] at hdiv
    have : x.negate.bits.toNat / 2 ^ 63 = 0 := hdiv
    omega

@[simp] theorem negate_negate (x : Binary64) : x.negate.negate = x := by
  cases x
  simp only [negate, mk.injEq]
  rw [UInt64.xor_assoc, UInt64.xor_self, UInt64.xor_zero]

@[simp] theorem isNegative_negate (x : Binary64) : x.negate.isNegative = !x.isNegative := by
  have h := (toNat_bits_negate x).2
  rw [Bool.eq_iff_iff, Bool.not_eq_true', isNegative, isNegative, decide_eq_true_iff,
    decide_eq_false_iff_not, Nat.not_le]
  exact h

@[simp] theorem exponentBits_negate (x : Binary64) : x.negate.exponentBits = x.exponentBits := by
  have h := (toNat_bits_negate x).1
  simp only [exponentBits, hiddenBit]
  omega

@[simp] theorem fractionBits_negate (x : Binary64) : x.negate.fractionBits = x.fractionBits := by
  have h := (toNat_bits_negate x).1
  simp only [fractionBits, hiddenBit]
  omega

@[simp] theorem isFinite_negate (x : Binary64) : x.negate.isFinite = x.isFinite := by
  simp only [isFinite, exponentBits_negate]

@[simp] theorem isZero_negate (x : Binary64) : x.negate.isZero = x.isZero := by
  simp only [isZero, exponentBits_negate, fractionBits_negate]

/-- Zero has two patterns, one of each sign. -/
theorem eq_zero_of_isZero {x : Binary64} (h : x.isZero = true) (hs : x.isNegative = false) :
    x = zero := by
  have hbits := toNat_bits hs
  simp only [isZero, Bool.and_eq_true, beq_iff_eq] at h
  rw [h.1, h.2] at hbits
  cases x
  exact congrArg mk (UInt64.toNat_inj.mp hbits)

end Binary64

end DimensionalMetrics
