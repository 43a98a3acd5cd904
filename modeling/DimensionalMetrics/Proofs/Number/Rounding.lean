import DimensionalMetrics.Number.Decimal
import Mathlib.Data.Int.Log
import Mathlib.Data.Rat.Floor
import Mathlib.Tactic.Positivity
import Mathlib.Tactic.Ring

/-!
# Rounding of ratios

Rounding a ratio looks at its value only, not at the two numbers that it is made of, and a finite
binary64 number is what its own magnitude is rounded to.  Both follow from one fact: the exponent that
the rounding picks is the binary logarithm of the value.
-/

namespace DimensionalMetrics

/-! ### Ratios to the nearest natural number -/

theorem roundHalfEven_mul_right (n d : Nat) {k : Nat} (hk : 0 < k) :
    roundHalfEven (n * k) (d * k) = roundHalfEven n d := by
  have hq : n * k / (d * k) = n / d := Nat.mul_div_mul_right n d hk
  have hr : n * k % (d * k) = n % d * k := Nat.mul_mod_mul_right k n d
  have hlow : 2 * (n % d * k) < d * k ↔ 2 * (n % d) < d := by
    rw [← Nat.mul_assoc]
    exact Nat.mul_lt_mul_right hk
  have hhigh : d * k < 2 * (n % d * k) ↔ d < 2 * (n % d) := by
    rw [← Nat.mul_assoc]
    exact Nat.mul_lt_mul_right hk
  simp only [roundHalfEven, hq, hr, hlow, hhigh]

theorem roundHalfEven_congr {n d n' d' : Nat} (hd : 0 < d) (hd' : 0 < d') (h : n * d' = n' * d) :
    roundHalfEven n d = roundHalfEven n' d' := by
  calc roundHalfEven n d = roundHalfEven (n * d') (d * d') := (roundHalfEven_mul_right n d hd').symm
    _ = roundHalfEven (n' * d) (d' * d) := by rw [h, Nat.mul_comm d d']
    _ = roundHalfEven n' d' := roundHalfEven_mul_right n' d' hd

theorem roundHalfEven_mul_self (m : Nat) {d : Nat} (hd : 0 < d) : roundHalfEven (m * d) d = m := by
  have h := roundHalfEven_mul_right m 1 hd
  rw [Nat.one_mul] at h
  rw [h]
  simp [roundHalfEven, Nat.mod_one]

/-! ### Powers with an integer exponent -/

/-- A power is a ratio of two powers with natural exponents, one of which is one. -/
theorem zpow_eq_div_toNat (b : ℚ) (e : ℤ) :
    b ^ e = b ^ e.toNat / b ^ (-e).toNat := by
  rcases le_total 0 e with he | he
  · obtain ⟨k, rfl⟩ := Int.eq_ofNat_of_zero_le he
    simp
  · obtain ⟨k, hk⟩ := Int.eq_ofNat_of_zero_le (Int.neg_nonneg_of_nonpos he)
    obtain rfl : e = -(k : ℤ) := by omega
    simp [zpow_neg]

theorem two_zpow_le_iff {n d : Nat} (hd : 0 < d) (k : ℤ) :
    (2 : ℚ) ^ k ≤ n / d ↔ d * 2 ^ k.toNat ≤ n * 2 ^ (-k).toNat := by
  have hd' : (0 : ℚ) < d := by exact_mod_cast hd
  rw [zpow_eq_div_toNat 2, div_le_div_iff₀ (by positivity) hd', mul_comm _ (d : ℚ)]
  exact_mod_cast Iff.rfl

namespace Binary64

/-! ### The exponent of a ratio -/

theorem floorLog2_eq_log {n d : Nat} (hn : 0 < n) (hd : 0 < d) :
    floorLog2 n d = Int.log 2 ((n : ℚ) / d) := by
  have hd' : (0 : ℚ) < d := by exact_mod_cast hd
  have hpos : (0 : ℚ) < n / d := by positivity
  have hn₁ : (2 : ℚ) ^ Nat.log2 n ≤ n := by exact_mod_cast Nat.log2_self_le hn.ne'
  have hn₂ : (n : ℚ) < 2 ^ (Nat.log2 n + 1) := by exact_mod_cast Nat.lt_log2_self
  have hd₁ : (2 : ℚ) ^ Nat.log2 d ≤ d := by exact_mod_cast Nat.log2_self_le hd.ne'
  have hd₂ : (d : ℚ) < 2 ^ (Nat.log2 d + 1) := by exact_mod_cast Nat.lt_log2_self
  have hlow : (Nat.log2 n : ℤ) - Nat.log2 d - 1 ≤ Int.log 2 ((n : ℚ) / d) := by
    apply (Int.zpow_le_iff_le_log (b := 2) one_lt_two hpos).mp
    rw [Nat.cast_ofNat, show (Nat.log2 n : ℤ) - Nat.log2 d - 1 = Nat.log2 n - (Nat.log2 d + 1 : Nat) by
      omega, zpow_sub₀ two_ne_zero, zpow_natCast, zpow_natCast]
    exact div_le_div₀ (by positivity) hn₁ hd' hd₂.le
  have hhigh : Int.log 2 ((n : ℚ) / d) < (Nat.log2 n : ℤ) - Nat.log2 d + 1 := by
    apply (Int.lt_zpow_iff_log_lt (b := 2) one_lt_two hpos).mp
    rw [Nat.cast_ofNat, show (Nat.log2 n : ℤ) - Nat.log2 d + 1 = (Nat.log2 n + 1 : Nat) - Nat.log2 d by
      omega, zpow_sub₀ two_ne_zero, zpow_natCast, zpow_natCast]
    exact div_lt_div₀ hn₂ hd₁ (by positivity) (by positivity)
  have hguess := two_zpow_le_iff (n := n) hd ((Nat.log2 n : ℤ) - Nat.log2 d)
  have hmid := Int.zpow_le_iff_le_log (b := 2) one_lt_two hpos (x := (Nat.log2 n : ℤ) - Nat.log2 d)
  rw [Nat.cast_ofNat] at hmid
  simp only [floorLog2, Nat.pow_eq]
  split
  · rename_i hle
    have := hmid.mp (hguess.mpr hle)
    omega
  · rename_i hlt
    have : ¬ (Nat.log2 n : ℤ) - Nat.log2 d ≤ Int.log 2 ((n : ℚ) / d) :=
      fun h => hlt (hguess.mp (hmid.mpr h))
    omega

/-! ### Rounding a ratio -/

theorem cast_div_eq_iff {n d n' d' : Nat} (hd : 0 < d) (hd' : 0 < d') :
    (n : ℚ) / d = n' / d' ↔ n * d' = n' * d := by
  rw [div_eq_div_iff (by positivity) (by positivity)]
  exact_mod_cast Iff.rfl

/-- **Rounding looks at the value only.** -/
theorem ofRatio_congr {n d n' d' : Nat} (hd : 0 < d) (hd' : 0 < d')
    (h : (n : ℚ) / d = n' / d') : ofRatio n d = ofRatio n' d' := by
  have hcross := (cast_div_eq_iff hd hd').mp h
  have hzero : n = 0 ↔ n' = 0 := by
    constructor
    · rintro rfl
      rw [Nat.zero_mul] at hcross
      exact (Nat.mul_eq_zero.mp hcross.symm).resolve_right hd.ne'
    · rintro rfl
      rw [Nat.zero_mul] at hcross
      exact (Nat.mul_eq_zero.mp hcross).resolve_right hd'.ne'
  by_cases hn : n = 0
  · simp only [ofRatio, if_pos hn, if_pos (hzero.mp hn)]
  · have hn' : n' ≠ 0 := fun h' => hn (hzero.mpr h')
    have hlog : floorLog2 n d = floorLog2 n' d' := by
      rw [floorLog2_eq_log (Nat.pos_of_ne_zero hn) hd, floorLog2_eq_log (Nat.pos_of_ne_zero hn') hd', h]
    have hround : ∀ a b : Nat, roundHalfEven (n * 2 ^ a) (d * 2 ^ b) =
        roundHalfEven (n' * 2 ^ a) (d' * 2 ^ b) := by
      intro a b
      apply roundHalfEven_congr (by positivity) (by positivity)
      calc n * 2 ^ a * (d' * 2 ^ b) = n * d' * (2 ^ a * 2 ^ b) := by ring
        _ = n' * d * (2 ^ a * 2 ^ b) := by rw [hcross]
        _ = n' * 2 ^ a * (d * 2 ^ b) := by ring
    simp only [ofRatio, if_neg hn, if_neg hn', hlog, Nat.pow_eq, hround]

/-- A ratio that has a significand and an exponent of its own needs no rounding. -/
theorem ofRatio_eq_assemble {n d m e : Nat} (hd : 0 < d) (hm : 0 < m) (hm' : m < 2 ^ 53) (he : 1 ≤ e)
    (hnormal : e = 1 ∨ 2 ^ 52 ≤ m) (h : (n : ℚ) / d = m * 2 ^ ((e : ℤ) - 1075)) :
    ofRatio n d = assemble m e := by
  have hpow : (0 : ℚ) < 2 ^ ((e : ℤ) - 1075) := zpow_pos two_pos _
  have hm₀ : (0 : ℚ) < m := by exact_mod_cast hm
  have hvalue : (0 : ℚ) < n / d := by
    rw [h]
    exact mul_pos hm₀ hpow
  have hn : 0 < n := by
    rcases Nat.eq_zero_or_pos n with rfl | hn
    · simp at hvalue
    · exact hn
  -- The exponent of the ratio is that of `m`, moved by `e - 1075`.
  have hbelow : floorLog2 n d ≤ (e : ℤ) - 1075 + 52 := by
    rw [floorLog2_eq_log hn hd]
    apply Int.lt_add_one_iff.mp
    apply (Int.lt_zpow_iff_log_lt (b := 2) one_lt_two hvalue).mp
    rw [h, Nat.cast_ofNat, show (e : ℤ) - 1075 + 52 + 1 = (53 : Nat) + ((e : ℤ) - 1075) by omega,
      zpow_add₀ two_ne_zero, zpow_natCast]
    exact mul_lt_mul_of_pos_right (by exact_mod_cast hm') hpow
  have hscale : max (floorLog2 n d - 52) (-1074) = (e : ℤ) - 1075 := by
    rcases hnormal with rfl | hnormal
    · omega
    · have habove : (e : ℤ) - 1075 + 52 ≤ floorLog2 n d := by
        rw [floorLog2_eq_log hn hd]
        apply (Int.zpow_le_iff_le_log (b := 2) one_lt_two hvalue).mp
        rw [h, Nat.cast_ofNat, show (e : ℤ) - 1075 + 52 = (52 : Nat) + ((e : ℤ) - 1075) by omega,
          zpow_add₀ two_ne_zero, zpow_natCast]
        exact mul_le_mul_of_nonneg_right (by exact_mod_cast hnormal) hpow.le
      omega
  have hsignificand : roundHalfEven (n * 2 ^ (-((e : ℤ) - 1075)).toNat)
      (d * 2 ^ ((e : ℤ) - 1075).toNat) = m := by
    rw [zpow_eq_div_toNat 2, ← mul_div_assoc,
      div_eq_div_iff (by positivity) (by positivity)] at h
    have hcross : n * 2 ^ (-((e : ℤ) - 1075)).toNat = m * (d * 2 ^ ((e : ℤ) - 1075).toNat) := by
      have h' : n * 2 ^ (-((e : ℤ) - 1075)).toNat = m * 2 ^ ((e : ℤ) - 1075).toNat * d := by
        exact_mod_cast h
      rw [h']
      ring
    rw [hcross]
    exact roundHalfEven_mul_self m (by positivity)
  have hexponent : ((e : ℤ) - 1075 + 1075).toNat = e := by omega
  simp only [ofRatio, if_neg hn.ne', hscale, Nat.pow_eq, hsignificand, hexponent]

/-! ### The magnitude of a number -/

theorem denominator_pos (x : Binary64) : 0 < x.denominator := by
  simp only [denominator, Nat.pow_eq]
  positivity

theorem fractionBits_lt (x : Binary64) : x.fractionBits < 2 ^ 52 :=
  Nat.mod_lt _ (by decide)

theorem magnitude_eq (x : Binary64) :
    (x.numerator : ℚ) / x.denominator =
      x.significand * 2 ^ (((max x.exponentBits 1 : Nat) : ℤ) - 1075) := by
  have h₁ : (((max x.exponentBits 1 : Nat) : ℤ) - 1075).toNat = max x.exponentBits 1 - 1075 := by omega
  have h₂ : (-(((max x.exponentBits 1 : Nat) : ℤ) - 1075)).toNat = 1075 - max x.exponentBits 1 := by
    omega
  rw [zpow_eq_div_toNat 2, h₁, h₂]
  simp only [numerator, denominator, Nat.pow_eq]
  push_cast
  ring

theorem toNat_bits {x : Binary64} (h : x.isNegative = false) :
    x.bits.toNat = x.exponentBits * 2 ^ 52 + x.fractionBits := by
  have hlt : x.bits.toNat < 2 ^ 63 := by
    have hnot := of_decide_eq_false h
    rw [signBit] at hnot
    omega
  simp only [exponentBits, fractionBits, hiddenBit]
  omega

theorem assemble_significand {x : Binary64} (hf : x.isFinite = true) (hs : x.isNegative = false) :
    assemble x.significand (max x.exponentBits 1) = x := by
  have hbits := toNat_bits hs
  have hfraction := fractionBits_lt x
  have hne : x.exponentBits ≠ 2047 := by simpa [isFinite] using hf
  have hlt : x.exponentBits < 2048 := Nat.mod_lt _ (by decide)
  have hmagnitude : (if x.significand < hiddenBit then x.significand
      else max x.exponentBits 1 * hiddenBit + (x.significand - hiddenBit)) = x.bits.toNat := by
    simp only [significand, hiddenBit]
    split <;> split <;> omega
  have hsmall : x.bits.toNat < 0x7ff0000000000000 := by omega
  simp only [assemble, hmagnitude, if_pos hsmall, UInt64.ofNat_toNat]

/-- **A number is what its magnitude is rounded to.** -/
theorem ofRatio_magnitude {x : Binary64} (hf : x.isFinite = true) (hs : x.isNegative = false) :
    ofRatio x.numerator x.denominator = x := by
  have hbits := toNat_bits hs
  have hfraction := fractionBits_lt x
  by_cases hzero : x.significand = 0
  · have hx : x.bits.toNat = 0 := by
      simp only [significand, hiddenBit] at hzero
      split at hzero <;> omega
    have hn : x.numerator = 0 := by simp [numerator, hzero]
    rw [ofRatio, if_pos hn]
    cases x
    exact congrArg mk (UInt64.toNat_inj.mp hx.symm)
  · rw [ofRatio_eq_assemble x.denominator_pos (Nat.pos_of_ne_zero hzero) _ (Nat.le_max_right _ _) _
      x.magnitude_eq]
    · exact assemble_significand hf hs
    · simp only [significand, hiddenBit]
      split <;> omega
    · simp only [significand, hiddenBit]
      split <;> omega

end Binary64

end DimensionalMetrics
