import DimensionalMetrics.Proofs.Number.Rounding

/-!
# Natural numbers in double precision

The numbers that meters compute are far below the largest double.  They are rounded to finite
numbers, of which only zero is not positive, and up to `2 ^ 53` they are not rounded at all.
Rounding to a natural number never passes a power of two, and what is small beside a power of two is
lost when it is added.
-/

namespace DimensionalMetrics

theorem div_le_roundHalfEven (n d : Nat) : n / d ≤ roundHalfEven n d := by
  simp only [roundHalfEven]
  split
  · exact Nat.le_refl _
  · split <;> omega

theorem roundHalfEven_le (n d : Nat) : roundHalfEven n d ≤ n / d + 1 := by
  simp only [roundHalfEven]
  split
  · omega
  · split <;> omega

theorem roundHalfEven_of_lt {n d : Nat} (h : 2 * (n % d) < d) : roundHalfEven n d = n / d :=
  if_pos h

namespace Binary64

/-! ### Putting a normal number together -/

/-- A significand of fifty-three bits, or the power of two after them, and an exponent that leaves
room for a carry. -/
structure Normal (significand exponent : Nat) : Prop where
  le : 2 ^ 52 ≤ significand
  carry : significand ≤ 2 ^ 53
  pos : 1 ≤ exponent
  small : exponent ≤ 2045

section Assemble

variable {m e : Nat} (h : Normal m e)
include h

theorem toNat_bits_assemble : (assemble m e).bits.toNat = e * 2 ^ 52 + (m - 2 ^ 52) := by
  obtain ⟨hle, hcarry, hpos, hsmall⟩ := h
  have hnot : ¬ m < hiddenBit := Nat.not_lt.mpr hle
  have hlt : e * hiddenBit + (m - hiddenBit) < 0x7ff0000000000000 := by
    simp only [hiddenBit]
    omega
  simp only [assemble, if_neg hnot, if_pos hlt]
  rw [UInt64.toNat_ofNat']
  apply Nat.mod_eq_of_lt
  simp only [hiddenBit]
  omega

theorem isNegative_assemble : (assemble m e).isNegative = false := by
  have hbits := toNat_bits_assemble h
  obtain ⟨hle, hcarry, hpos, hsmall⟩ := h
  rw [isNegative, hbits, decide_eq_false_iff_not, signBit]
  omega

/-- The fields of the pattern, without and with a carry. -/
theorem fields_assemble :
    (m < 2 ^ 53 ∧ (assemble m e).exponentBits = e ∧ (assemble m e).fractionBits = m - 2 ^ 52) ∨
      (m = 2 ^ 53 ∧ (assemble m e).exponentBits = e + 1 ∧ (assemble m e).fractionBits = 0) := by
  have hbits := toNat_bits_assemble h
  obtain ⟨hle, hcarry, hpos, hsmall⟩ := h
  simp only [exponentBits, fractionBits, hbits, hiddenBit]
  rcases Nat.lt_or_eq_of_le hcarry with hlt | heq
  · refine .inl ⟨hlt, ?_, ?_⟩ <;> omega
  · refine .inr ⟨heq, ?_, ?_⟩ <;> omega

theorem isFinite_assemble : (assemble m e).isFinite = true := by
  have hfields := fields_assemble h
  obtain ⟨hle, hcarry, hpos, hsmall⟩ := h
  rw [isFinite, bne_iff_ne]
  rcases hfields with ⟨-, hexponent, -⟩ | ⟨-, hexponent, -⟩
  · omega
  · omega

theorem magnitude_assemble :
    ((assemble m e).numerator : ℚ) / (assemble m e).denominator = m * 2 ^ ((e : ℤ) - 1075) := by
  have hfields := fields_assemble h
  obtain ⟨hle, hcarry, hpos, hsmall⟩ := h
  rw [magnitude_eq, significand]
  rcases hfields with ⟨hlt, hexponent, hfraction⟩ | ⟨heq, hexponent, hfraction⟩
  · have hm : hiddenBit + (m - 2 ^ 52) = m := by
      simp only [hiddenBit]
      omega
    rw [hexponent, hfraction, if_neg (by omega), hm, Nat.max_eq_left hpos]
  · -- The carry doubled the significand, and the exponent went up by one instead.
    have hm : ((hiddenBit + 0 : Nat) : ℚ) = 2 ^ 52 := by norm_num [hiddenBit]
    have hexp : ((max (e + 1) 1 : Nat) : ℤ) - 1075 = 1 + ((e : ℤ) - 1075) := by omega
    rw [hexponent, hfraction, if_neg (by omega), hm, hexp, heq, zpow_add₀ two_ne_zero, zpow_one,
      ← mul_assoc, ← pow_succ]
    norm_num

end Assemble

/-! ### The number of a natural number -/

theorem floorLog2_one {n : Nat} (hn : n ≠ 0) : floorLog2 n 1 = Nat.log2 n := by
  have hguess : (Nat.log2 n : ℤ) - (Nat.log2 1 : ℤ) = Nat.log2 n := by
    have hone : Nat.log2 1 = 0 := by decide
    omega
  have hle : 1 * Nat.pow 2 ((Nat.log2 n : ℤ)).toNat ≤ n * Nat.pow 2 (-(Nat.log2 n : ℤ)).toNat := by
    have hneg : (-(Nat.log2 n : ℤ)).toNat = 0 := by omega
    rw [hneg, Int.toNat_natCast, Nat.one_mul]
    exact (Nat.log2_self_le hn).trans_eq (Nat.mul_one n).symm
  simp only [floorLog2, hguess, if_pos hle]

/-- The leading fifty-three bits of a natural number, the last one rounded. -/
def leadingBits (n : Nat) : Nat :=
  roundHalfEven (n * 2 ^ (52 - Nat.log2 n)) (2 ^ (Nat.log2 n - 52))

theorem ofNat_eq_assemble {n : Nat} (hn : n ≠ 0) :
    ofNat n = assemble (leadingBits n) (Nat.log2 n + 1023) := by
  have hscale : max (floorLog2 n 1 - 52) (-1074) = (Nat.log2 n : ℤ) - 52 := by
    rw [floorLog2_one hn]
    omega
  have hup : (-((Nat.log2 n : ℤ) - 52)).toNat = 52 - Nat.log2 n := by omega
  have hdown : ((Nat.log2 n : ℤ) - 52).toNat = Nat.log2 n - 52 := by omega
  have hexponent : ((Nat.log2 n : ℤ) - 52 + 1075).toNat = Nat.log2 n + 1023 := by omega
  simp only [ofNat, ofRatio, if_neg hn, hscale, hup, hdown, hexponent, Nat.one_mul, leadingBits,
    Nat.pow_eq]

theorem normal_leadingBits {n : Nat} (hn : n ≠ 0) (hlt : n < 2 ^ 256) :
    Normal (leadingBits n) (Nat.log2 n + 1023) := by
  have hlow : 2 ^ Nat.log2 n ≤ n := Nat.log2_self_le hn
  have hhigh : n < 2 ^ (Nat.log2 n + 1) := Nat.lt_log2_self
  have hlog : Nat.log2 n < 256 := (Nat.log2_lt hn).mpr hlt
  -- Moved to the fifty-third bit, the number lies between two powers of two.
  have hmoved : 2 ^ Nat.log2 n * 2 ^ (52 - Nat.log2 n) = 2 ^ 52 * 2 ^ (Nat.log2 n - 52) := by
    rw [← Nat.pow_add, ← Nat.pow_add]
    congr 1
    omega
  have hpos : 0 < 2 ^ (Nat.log2 n - 52) := by positivity
  have hbelow : 2 ^ 52 ≤ n * 2 ^ (52 - Nat.log2 n) / 2 ^ (Nat.log2 n - 52) := by
    rw [Nat.le_div_iff_mul_le hpos, ← hmoved]
    exact Nat.mul_le_mul_right _ hlow
  have habove : n * 2 ^ (52 - Nat.log2 n) / 2 ^ (Nat.log2 n - 52) < 2 ^ 53 := by
    rw [Nat.div_lt_iff_lt_mul hpos]
    calc n * 2 ^ (52 - Nat.log2 n)
        < 2 ^ (Nat.log2 n + 1) * 2 ^ (52 - Nat.log2 n) := by gcongr
      _ = 2 * (2 ^ Nat.log2 n * 2 ^ (52 - Nat.log2 n)) := by ring
      _ = 2 ^ 53 * 2 ^ (Nat.log2 n - 52) := by rw [hmoved]; ring
  constructor
  · exact hbelow.trans (div_le_roundHalfEven _ _)
  · exact (roundHalfEven_le _ _).trans habove
  · omega
  · omega

theorem isFinite_ofNat {n : Nat} (hlt : n < 2 ^ 256) : (ofNat n).isFinite = true := by
  by_cases hn : n = 0
  · rw [hn]
    rfl
  · rw [ofNat_eq_assemble hn]
    exact isFinite_assemble (normal_leadingBits hn hlt)

theorem isNegative_ofNat {n : Nat} (hlt : n < 2 ^ 256) : (ofNat n).isNegative = false := by
  by_cases hn : n = 0
  · rw [hn]
    rfl
  · rw [ofNat_eq_assemble hn]
    exact isNegative_assemble (normal_leadingBits hn hlt)

theorem isNaN_of_isFinite {x : Binary64} (h : x.isFinite = true) : x.isNaN = false := by
  have hne : x.exponentBits ≠ 2047 := bne_iff_ne.mp h
  simp only [isNaN, beq_eq_false_iff_ne.mpr hne, Bool.false_and]

theorem isPositive_ofNat {n : Nat} (hlt : n < 2 ^ 256) : (ofNat n).isPositive = true ↔ n ≠ 0 := by
  constructor
  · rintro hpos rfl
    exact absurd hpos (by decide)
  · intro hn
    have hbits : (ofNat n).bits ≠ 0 := by
      intro hzero
      have htoNat := toNat_bits_assemble (normal_leadingBits hn hlt)
      rw [← ofNat_eq_assemble hn, hzero, UInt64.toNat_zero] at htoNat
      omega
    simp only [isPositive, isNegative_ofNat hlt, isNaN_of_isFinite (isFinite_ofNat hlt),
      Bool.not_false, Bool.true_and, bne_iff_ne]
    exact hbits

/-! ### Natural numbers that need no rounding -/

/-- A number is a natural number, exactly. -/
structure IsNat (x : Binary64) (n : Nat) : Prop where
  isFinite : x.isFinite = true
  isNegative : x.isNegative = false
  value : (x.numerator : ℚ) / x.denominator = n

theorem leadingBits_eq {n : Nat} (hle : n ≤ 2 ^ 53) :
    leadingBits n * 2 ^ (Nat.log2 n - 52) = n * 2 ^ (52 - Nat.log2 n) := by
  rcases Nat.lt_or_eq_of_le hle with hlt | rfl
  · have hlog : Nat.log2 n - 52 = 0 := by
      by_cases hn : n = 0
      · rw [hn]
        rfl
      · have := (Nat.log2_lt hn).mpr hlt
        omega
    rw [leadingBits, hlog, Nat.pow_zero, Nat.mul_one]
    simpa using roundHalfEven_mul_self (n * 2 ^ (52 - Nat.log2 n)) Nat.one_pos
  · rw [leadingBits, Nat.log2_two_pow]
    rfl

/-- **Natural numbers up to `2 ^ 53` are represented exactly.** -/
theorem isNat_ofNat {n : Nat} (hle : n ≤ 2 ^ 53) : (ofNat n).IsNat n := by
  have hlt : n < 2 ^ 256 := by omega
  refine ⟨isFinite_ofNat hlt, isNegative_ofNat hlt, ?_⟩
  by_cases hn : n = 0
  · have hzero : (ofNat 0).numerator = 0 := by decide
    rw [hn, hzero, Nat.cast_zero, zero_div]
  · have hexponent : ((Nat.log2 n + 1023 : Nat) : ℤ) - 1075 =
        ((Nat.log2 n - 52 : Nat) : ℤ) - ((52 - Nat.log2 n : Nat) : ℤ) := by omega
    have hbits : (leadingBits n : ℚ) * 2 ^ (Nat.log2 n - 52) = n * 2 ^ (52 - Nat.log2 n) := by
      exact_mod_cast leadingBits_eq hle
    rw [ofNat_eq_assemble hn, magnitude_assemble (normal_leadingBits hn hlt), hexponent,
      zpow_sub₀ two_ne_zero, zpow_natCast, zpow_natCast, ← mul_div_assoc, hbits]
    exact mul_div_cancel_right₀ _ (by positivity)

/-- There is one number for a natural number. -/
theorem IsNat.eq_ofNat {x : Binary64} {n : Nat} (h : x.IsNat n) : x = ofNat n := by
  have hvalue : (x.numerator : ℚ) / x.denominator = n / (1 : Nat) := by
    rw [h.value, Nat.cast_one, div_one]
  calc x = ofRatio x.numerator x.denominator := (ofRatio_magnitude h.isFinite h.isNegative).symm
    _ = ofNat n := ofRatio_congr x.denominator_pos Nat.one_pos hvalue

/-! ### Rounding to a natural number -/

theorem roundNat_of_lt {n : Nat} (hn : n < 2 ^ 53) : roundNat n = n := by
  have hexcess : Nat.log2 n - 52 = 0 := by
    by_cases hzero : n = 0
    · rw [hzero]
      rfl
    · have := (Nat.log2_lt hzero).mpr hn
      omega
  have hself := roundHalfEven_mul_self n Nat.one_pos
  simpa only [roundNat, hexcess, Nat.pow_eq, Nat.pow_zero, Nat.mul_one] using hself

theorem roundNat_two_pow (k : Nat) : roundNat (2 ^ k) = 2 ^ k := by
  simp only [roundNat, Nat.log2_two_pow, Nat.pow_eq]
  have hsplit : 2 ^ k = 2 ^ min k 52 * 2 ^ (k - 52) := by
    rw [← Nat.pow_add]
    congr 1
    omega
  have hself := roundHalfEven_mul_self (2 ^ min k 52) (Nat.two_pow_pos (k - 52))
  rw [← hsplit] at hself
  rw [hself, ← hsplit]

/-- Rounding does not pass a power of two. -/
theorem roundNat_le {n k : Nat} (hn : n ≤ 2 ^ k) : roundNat n ≤ 2 ^ k := by
  rcases Nat.lt_or_eq_of_le hn with hlt | rfl
  · by_cases hsmall : n < 2 ^ 53
    · rw [roundNat_of_lt hsmall]
      exact hn
    · have hzero : n ≠ 0 := by omega
      have hlog : 53 ≤ Nat.log2 n := (Nat.le_log2 hzero).mpr (Nat.not_lt.mp hsmall)
      have hhigh : n < 2 ^ 53 * 2 ^ (Nat.log2 n - 52) := by
        have hexp : 53 + (Nat.log2 n - 52) = Nat.log2 n + 1 := by omega
        rw [← Nat.pow_add, hexp]
        exact Nat.lt_log2_self
      have hquotient : n / 2 ^ (Nat.log2 n - 52) < 2 ^ 53 :=
        (Nat.div_lt_iff_lt_mul (Nat.two_pow_pos _)).mpr hhigh
      have hk : Nat.log2 n + 1 ≤ k := (Nat.log2_lt hzero).mpr hlt
      calc roundNat n
          ≤ 2 ^ 53 * 2 ^ (Nat.log2 n - 52) :=
            Nat.mul_le_mul_right _ ((roundHalfEven_le _ _).trans hquotient)
        _ = 2 ^ (Nat.log2 n + 1) := by
            rw [← Nat.pow_add]
            congr 1
            omega
        _ ≤ 2 ^ k := Nat.pow_le_pow_right Nat.two_pos hk
  · rw [roundNat_two_pow]

theorem mul_self_roundNat_le {n k : Nat} (hn : n ≤ 2 ^ k) :
    roundNat n * roundNat n ≤ 2 ^ (k + k) := by
  rw [Nat.pow_add]
  exact Nat.mul_le_mul (roundNat_le hn) (roundNat_le hn)

theorem two_pow_excess_le {n : Nat} (hn : n ≠ 0) : 2 ^ (Nat.log2 n - 52) ≤ n :=
  (Nat.pow_le_pow_right Nat.two_pos (Nat.sub_le _ _)).trans (Nat.log2_self_le hn)

/-- Only zero is rounded to zero: the leading bit is always kept. -/
theorem roundNat_eq_zero_iff {n : Nat} : roundNat n = 0 ↔ n = 0 := by
  constructor
  · intro hzero
    by_contra hn
    have hpos : 0 < 2 ^ (Nat.log2 n - 52) := Nat.two_pow_pos _
    have hquotient : 1 ≤ n / 2 ^ (Nat.log2 n - 52) :=
      (Nat.le_div_iff_mul_le hpos).mpr (by simpa using two_pow_excess_le hn)
    have hleading := hquotient.trans (div_le_roundHalfEven _ _)
    have hround : 0 < roundNat n := Nat.mul_pos hleading hpos
    omega
  · rintro rfl
    rfl

/-- The number of a natural number is what that is rounded to. -/
theorem magnitude_ofNat {n : Nat} (hlt : n < 2 ^ 256) :
    ((ofNat n).numerator : ℚ) / (ofNat n).denominator = roundNat n := by
  by_cases hsmall : n < 2 ^ 53
  · rw [(isNat_ofNat hsmall.le).value, roundNat_of_lt hsmall]
  · have hn : n ≠ 0 := by omega
    have hlog : 53 ≤ Nat.log2 n := (Nat.le_log2 hn).mpr (Nat.not_lt.mp hsmall)
    have hexponent : ((Nat.log2 n + 1023 : Nat) : ℤ) - 1075 = ((Nat.log2 n - 52 : Nat) : ℤ) := by
      omega
    have hup : 52 - Nat.log2 n = 0 := by omega
    rw [ofNat_eq_assemble hn, magnitude_assemble (normal_leadingBits hn hlt), hexponent,
      zpow_natCast, leadingBits, hup, Nat.pow_zero, Nat.mul_one]
    simp only [roundNat, Nat.pow_eq]
    push_cast
    rfl

/-- To round is to round once. -/
theorem ofNat_roundNat {n : Nat} (hlt : n < 2 ^ 256) : ofNat (roundNat n) = ofNat n := by
  have hvalue : ((ofNat n).numerator : ℚ) / (ofNat n).denominator = roundNat n / (1 : Nat) := by
    rw [magnitude_ofNat hlt, Nat.cast_one, div_one]
  calc ofNat (roundNat n)
      = ofRatio (ofNat n).numerator (ofNat n).denominator :=
        (ofRatio_congr (denominator_pos _) Nat.one_pos hvalue).symm
    _ = ofNat n := ofRatio_magnitude (isFinite_ofNat hlt) (isNegative_ofNat hlt)

theorem roundNat_roundNat {n : Nat} (hle : n ≤ 2 ^ 255) : roundNat (roundNat n) = roundNat n := by
  have hlt : ∀ {m : Nat}, m ≤ 2 ^ 255 → m < 2 ^ 256 := fun h => h.trans_lt (by decide)
  have hsame : ((roundNat (roundNat n) : Nat) : ℚ) = (roundNat n : Nat) := by
    rw [← magnitude_ofNat (hlt hle), ← magnitude_ofNat (hlt (roundNat_le hle)),
      ofNat_roundNat (hlt hle)]
  exact_mod_cast hsame

/-- What is less than half of the last bit is lost beside a power of two. -/
theorem roundNat_add_le {n s k : Nat} (hn : n ≤ 2 ^ (k + 54)) (hs : s ≤ 2 ^ k) :
    roundNat (n + s) ≤ 2 ^ (k + 54) := by
  by_cases hle : n + s ≤ 2 ^ (k + 54)
  · exact roundNat_le hle
  · have hbase : 2 ^ (k + 54) = 2 ^ 52 * 2 ^ (k + 2) := by
      rw [← Nat.pow_add]
      congr 1
      omega
    have hlast : 2 ^ (k + 2) = 4 * 2 ^ k := by ring
    have hpos : 0 < 2 ^ k := by positivity
    obtain ⟨r, hr⟩ := Nat.exists_eq_add_of_lt (Nat.not_le.mp hle)
    have hlog : Nat.log2 (n + s) = k + 54 := by
      rw [Nat.log2_eq_iff (by omega)]
      constructor
      · omega
      · rw [Nat.pow_succ]
        omega
    have hdivmod : (n + s) / 2 ^ (k + 2) = 2 ^ 52 ∧ (n + s) % 2 ^ (k + 2) = r + 1 := by
      rw [Nat.div_mod_unique (by omega)]
      constructor <;> omega
    have hround : roundHalfEven (n + s) (2 ^ (k + 2)) = 2 ^ 52 := by
      rw [roundHalfEven_of_lt (by omega)]
      exact hdivmod.1
    have hexcess : k + 54 - 52 = k + 2 := by omega
    simp only [roundNat, hlog, hexcess, Nat.pow_eq, hround, hbase, Nat.le_refl]

end Binary64

end DimensionalMetrics
