import DimensionalMetrics.Json.Reader
import DimensionalMetrics.Proofs.Number.Shortest
import Mathlib.Data.List.TakeWhile

/-!
# Numerals that are read back

A numeral is scanned to its last character as soon as what follows it cannot belong to it.  The text of
a natural number is a numeral of digits alone.  The text of a finite binary64 number is a numeral with
a point or an exponent, whichever of the three layouts was chosen for it, and its digits are worth the
shortest decimal of the number; so it is read as that number, sign included.
-/

namespace DimensionalMetrics.Json.Scan

/-- One decimal digit or more, and nothing else. -/
def AreDigits (ds : List Char) : Prop := ds ≠ [] ∧ ∀ c ∈ ds, c.isDigit = true

/-- The text does not go on with a character that a numeral could have at this place. -/
def EndsNumeral (rest : List Char) : Prop :=
  ∀ c ∈ rest.head?, c.isDigit = false ∧ c ≠ '.' ∧ c ≠ 'e' ∧ c ≠ 'E'

/-- The characters of a numeral; an exponent has its sign. -/
def Numeral.chars (n : Numeral) : List Char :=
  (if n.negative then ['-'] else []) ++ n.whole ++
    (n.fraction.elim [] fun ds => '.' :: ds) ++
    (n.exponent.elim [] fun (negative, ds) => 'e' :: (if negative then '-' else '+') :: ds)

/-- The numerals of JSON: no part is empty, and only zero starts with a zero. -/
structure Numeral.WellFormed (n : Numeral) : Prop where
  whole : AreDigits n.whole
  leading : n.whole.head? = some '0' → n.whole = ['0']
  fraction : ∀ ds ∈ n.fraction, AreDigits ds
  exponent : ∀ p ∈ n.exponent, AreDigits p.2

/-! ### Scanning -/

theorem digits_append {ds rest : List Char} (h : AreDigits ds)
    (hrest : ∀ c ∈ rest.head?, c.isDigit = false) : digits (ds ++ rest) = .ok (ds, rest) := by
  obtain ⟨hne, hall⟩ := h
  have htake : rest.takeWhile Char.isDigit = [] := by
    cases rest with
    | nil => rfl
    | cons c rest => simp [hrest c rfl]
  have hdrop : rest.dropWhile Char.isDigit = rest := by
    cases rest with
    | nil => rfl
    | cons c rest => simp [hrest c rfl]
  cases ds with
  | nil => exact absurd rfl hne
  | cons d ds =>
    have hd : d.isDigit = true := hall d List.mem_cons_self
    rw [List.cons_append, digits, if_pos hd, ← List.cons_append,
      List.takeWhile_append_of_pos hall, List.dropWhile_append_of_pos hall, htake, hdrop,
      List.append_nil]

theorem wholePart_append {ds rest : List Char} (h : AreDigits ds)
    (hzero : ds.head? = some '0' → ds = ['0']) (hrest : ∀ c ∈ rest.head?, c.isDigit = false) :
    wholePart (ds ++ rest) = .ok (ds, rest) := by
  by_cases hds : ds = ['0']
  · subst hds
    cases rest with
    | nil => rfl
    | cons c rest => simp [wholePart, hrest c rfl]
  · rw [← digits_append h hrest]
    unfold wholePart
    split
    · rename_i c rest' heq
      cases ds with
      | nil => exact absurd rfl h.1
      | cons d ds =>
        rw [List.cons_append, List.cons.injEq] at heq
        rw [heq.1] at hzero hds
        exact absurd (hzero rfl) hds
    · rfl

theorem fractionPart_append {fraction : Option (List Char)} {rest : List Char}
    (h : ∀ ds ∈ fraction, AreDigits ds)
    (hrest : ∀ c ∈ rest.head?, c.isDigit = false ∧ c ≠ '.') :
    fractionPart ((fraction.elim [] fun ds => '.' :: ds) ++ rest) = .ok (fraction, rest) := by
  cases fraction with
  | none =>
    cases rest with
    | nil => rfl
    | cons c rest =>
      have hc : c ≠ '.' := (hrest c rfl).2
      simp [fractionPart, hc]
  | some ds =>
    have hds := digits_append (h ds rfl) fun c hc => (hrest c hc).1
    simp [fractionPart, hds, Except.map]

theorem exponentPart_append {exponent : Option (Bool × List Char)} {rest : List Char}
    (h : ∀ p ∈ exponent, AreDigits p.2) (hrest : EndsNumeral rest) :
    exponentPart ((exponent.elim [] fun (negative, ds) =>
      'e' :: (if negative then '-' else '+') :: ds) ++ rest) = .ok (exponent, rest) := by
  cases exponent with
  | none =>
    cases rest with
    | nil => rfl
    | cons c rest =>
      obtain ⟨-, -, he, hE⟩ := hrest c rfl
      simp [exponentPart, he, hE]
  | some p =>
    obtain ⟨negative, ds⟩ := p
    have hds := digits_append (h _ rfl) fun c hc => (hrest c hc).1
    cases negative <;> simp [exponentPart, exponentSign, hds, Except.map]

theorem unsignedNumeral_append {n : Numeral} {rest : List Char} (h : n.WellFormed)
    (hrest : EndsNumeral rest) :
    unsignedNumeral n.negative (n.whole ++ ((n.fraction.elim [] fun ds => '.' :: ds) ++
      ((n.exponent.elim [] fun (negative, ds) => 'e' :: (if negative then '-' else '+') :: ds) ++
        rest))) = .ok (n, rest) := by
  have hafter : ∀ c ∈ ((n.exponent.elim [] fun (negative, ds) =>
      'e' :: (if negative then '-' else '+') :: ds) ++ rest).head?, c.isDigit = false ∧ c ≠ '.' := by
    intro c hc
    cases he : n.exponent with
    | none =>
      rw [he] at hc
      exact ⟨(hrest c hc).1, (hrest c hc).2.1⟩
    | some p =>
      rw [he] at hc
      obtain rfl : 'e' = c := Option.some.inj hc
      decide
  have hwhole : ∀ c ∈ ((n.fraction.elim [] fun ds => '.' :: ds) ++
      ((n.exponent.elim [] fun (negative, ds) => 'e' :: (if negative then '-' else '+') :: ds) ++
        rest)).head?, c.isDigit = false := by
    intro c hc
    cases hf : n.fraction with
    | none =>
      rw [hf] at hc
      exact (hafter c hc).1
    | some ds =>
      rw [hf] at hc
      obtain rfl : '.' = c := Option.some.inj hc
      decide
  rw [unsignedNumeral, wholePart_append h.whole h.leading hwhole]
  dsimp only
  rw [fractionPart_append h.fraction hafter]
  dsimp only
  rw [exponentPart_append h.exponent hrest]

/-- **A numeral is scanned to its last character.** -/
theorem numeral_chars {n : Numeral} {rest : List Char} (h : n.WellFormed) (hrest : EndsNumeral rest) :
    numeral (n.chars ++ rest) = .ok (n, rest) := by
  have hscan := unsignedNumeral_append h hrest
  cases hneg : n.negative with
  | true =>
    rw [hneg] at hscan
    simp only [Numeral.chars, hneg, if_true, List.append_assoc, List.singleton_append]
    exact hscan
  | false =>
    rw [hneg] at hscan
    simp only [Numeral.chars, hneg, Bool.false_eq_true, if_false, List.nil_append, List.append_assoc]
    obtain ⟨hne, hall⟩ := h.whole
    cases hw : n.whole with
    | nil => exact absurd hw hne
    | cons d ds =>
      have hd : d ≠ '-' := by
        rintro rfl
        have := hall '-' (by rw [hw]; exact List.mem_cons_self)
        exact absurd this (by decide)
      rw [hw] at hscan
      simp only [List.cons_append] at hscan ⊢
      rw [numeral]
      · exact hscan
      · rintro rest' heq
        exact hd (List.cons.inj heq).1

/-! ### The value of digits -/

theorem areDigits_digits (n : Nat) : AreDigits (Decimal.digits n) :=
  ⟨Nat.toDigits_ne_nil, fun _ hc => Nat.isDigit_of_mem_toDigits (by decide) (by decide) hc⟩

theorem head?_digits {n : Nat} (hn : n ≠ 0) : (Decimal.digits n).head? ≠ some '0' := by
  induction n using Nat.strongRecOn with
  | ind n ih =>
    rw [Decimal.digits, Nat.toDigits_eq_if (by decide)]
    split
    · rename_i hlt
      have hsmall : ∀ k < 10, k ≠ 0 → [Nat.digitChar k].head? ≠ some '0' := by decide
      exact hsmall n hlt hn
    · rename_i hge
      rw [List.head?_append_of_ne_nil _ Nat.toDigits_ne_nil]
      exact ih (n / 10) (by omega) (by omega)

@[simp] theorem digitsValue_digits (n : Nat) : digitsValue (Decimal.digits n) = n :=
  Nat.ofDigitChars_ten_toDigits

theorem digitsValue_append_zeros (ds : List Char) (k : Nat) :
    digitsValue (ds ++ List.replicate k '0') = digitsValue ds * 10 ^ k := by
  calc digitsValue (ds ++ List.replicate k '0')
      = Nat.ofDigitChars 10 (List.replicate k '0') (digitsValue ds) := Nat.ofDigitChars_append 0
    _ = 10 ^ k * digitsValue ds := Nat.ofDigitChars_replicate_zero
    _ = digitsValue ds * 10 ^ k := Nat.mul_comm _ _

theorem digitsValue_zeros_append (ds : List Char) (k : Nat) :
    digitsValue (List.replicate k '0' ++ ds) = digitsValue ds := by
  calc digitsValue (List.replicate k '0' ++ ds)
      = Nat.ofDigitChars 10 ds (Nat.ofDigitChars 10 (List.replicate k '0') 0) :=
        Nat.ofDigitChars_append 0
    _ = Nat.ofDigitChars 10 ds 0 := by rw [Nat.ofDigitChars_replicate_zero, Nat.mul_zero]

/-! ### Natural numbers -/

/-- The numeral of a natural number. -/
def Numeral.natural (n : Nat) : Numeral := ⟨false, Decimal.digits n, none, none⟩

theorem Numeral.wellFormed_natural (n : Nat) : (natural n).WellFormed where
  whole := areDigits_digits n
  leading h := by
    by_cases hn : n = 0
    · rw [hn]
      exact Nat.toDigits_zero 10
    · exact absurd h (head?_digits hn)
  fraction := by simp [natural]
  exponent := by simp [natural]

theorem Numeral.chars_natural (n : Nat) : (natural n).chars = Decimal.digits n := by
  simp [natural, chars]

theorem Numeral.toJson_natural (n : Nat) : (natural n).toJson = .nat n := by
  simp [natural, toJson]

/-! ### Binary64 numbers -/

/-- Digits without zeros at their ends, and a numeral with a point or an exponent that is worth as much
as them when the first one stands for `10 ^ leading`. -/
structure Numeral.Writes (ds : List Char) (leading : Int) (n : Numeral) : Prop where
  wellFormed : n.WellFormed
  unsigned : n.negative = false
  real : n.fraction ≠ none ∨ n.exponent ≠ none
  value : n.magnitude.value = digitsValue ds * 10 ^ (leading + 1 - ds.length)

variable {ds : List Char} {leading : Int}

theorem writes_small (hds : AreDigits ds) (hneg : leading < 0) :
    Numeral.Writes ds leading
      ⟨false, ['0'], some (List.replicate (-leading - 1).toNat '0' ++ ds), none⟩ where
  wellFormed :=
    { whole := by
        refine ⟨by simp, fun c hc => ?_⟩
        rw [List.mem_singleton.mp hc]
        decide
      leading := fun _ => rfl
      fraction := by
        rintro _ ⟨⟩
        refine ⟨by simp [hds.1], fun c hc => ?_⟩
        rcases List.mem_append.mp hc with hc | hc
        · rw [List.eq_of_mem_replicate hc]
          decide
        · exact hds.2 c hc
      exponent := by simp }
  unsigned := rfl
  real := .inl (by simp)
  value := by
    have hvalue := digitsValue_zeros_append ds ((-leading - 1).toNat + 1)
    rw [List.replicate_succ, List.cons_append] at hvalue
    simp only [Numeral.magnitude, Option.getD_some, Decimal.value, List.singleton_append, hvalue,
      List.length_append, List.length_replicate]
    congr 2
    omega

theorem writes_positional (hds : AreDigits ds) (hhead : ds.head? ≠ some '0') (hpos : 0 ≤ leading) :
    Numeral.Writes ds leading
      ⟨false, ds.take (leading.toNat + 1) ++ List.replicate (leading.toNat + 1 - ds.length) '0',
        some (if ds.drop (leading.toNat + 1) = [] then ['0'] else ds.drop (leading.toNat + 1)),
        none⟩ where
  wellFormed :=
    { whole := by
        refine ⟨by simp [hds.1], fun c hc => ?_⟩
        rcases List.mem_append.mp hc with hc | hc
        · exact hds.2 c (List.mem_of_mem_take hc)
        · rw [List.eq_of_mem_replicate hc]
          decide
      leading := by
        intro h
        cases ds with
        | nil => exact absurd rfl hds.1
        | cons d ds => exact absurd h hhead
      fraction := by
        rintro _ ⟨⟩
        split
        · refine ⟨by simp, fun c hc => ?_⟩
          rw [List.mem_singleton.mp hc]
          decide
        · rename_i hne
          exact ⟨hne, fun c hc => hds.2 c (List.mem_of_mem_drop hc)⟩
      exponent := by simp }
  unsigned := rfl
  real := .inl (by simp)
  value := by
    obtain ⟨w, hw⟩ : ∃ w, w = leading.toNat + 1 := ⟨_, rfl⟩
    have hw' : leading + 1 = w := by omega
    simp only [Numeral.magnitude, Option.getD_some, Decimal.value, ← hw, hw']
    by_cases hle : ds.length ≤ w
    · rw [List.drop_eq_nil_of_le hle, List.take_of_length_le hle, if_pos rfl,
        show ['0'] = List.replicate 1 '0' from rfl, digitsValue_append_zeros, digitsValue_append_zeros,
        List.length_replicate]
      rw [show (w : ℤ) - ds.length = (w - ds.length : Nat) by omega, zpow_natCast]
      push_cast
      norm_num
      ring
    · have hlt : w < ds.length := Nat.lt_of_not_le hle
      have hne : ds.drop w ≠ [] := by
        rw [Ne, List.drop_eq_nil_iff]
        omega
      rw [if_neg hne, Nat.sub_eq_zero_of_le hlt.le, List.replicate_zero, List.append_nil,
        List.take_append_drop, List.length_drop]
      congr 2
      omega

theorem writes_scientific {d : Char} {rest : List Char} (hds : AreDigits (d :: rest))
    (hhead : d ≠ '0') (leading : Int) :
    Numeral.Writes (d :: rest) leading
      ⟨false, [d], if rest = [] then none else some rest,
        some (decide (leading < 0), Decimal.digits leading.natAbs)⟩ where
  wellFormed :=
    { whole := ⟨by simp, by simpa using hds.2 d List.mem_cons_self⟩
      leading := fun h => absurd (Option.some.inj h) hhead
      fraction := by
        intro ds h
        split at h
        · cases h
        · rename_i hne
          cases h
          exact ⟨hne, fun c hc => hds.2 c (List.mem_cons_of_mem _ hc)⟩
      exponent := by
        rintro _ ⟨⟩
        exact areDigits_digits _ }
  unsigned := rfl
  real := .inr (by simp)
  value := by
    have hfraction : (if rest = [] then none else some rest).getD [] = rest := by
      split
      · rename_i h
        rw [h]
        rfl
      · rfl
    have hmagnitude : Numeral.magnitude ⟨false, [d], if rest = [] then none else some rest,
        some (decide (leading < 0), Decimal.digits leading.natAbs)⟩ =
          ⟨digitsValue (d :: rest), leading - rest.length⟩ := by
      by_cases h : leading < 0
      · simp only [Numeral.magnitude, hfraction, h, decide_true, digitsValue_digits,
          Int.ofNat_natAbs_of_nonpos h.le, Int.neg_neg, List.singleton_append]
      · simp only [Numeral.magnitude, hfraction, h, decide_false, digitsValue_digits,
          Int.natAbs_of_nonneg (Int.not_lt.mp h), List.singleton_append]
    rw [hmagnitude, List.length_cons]
    simp only [Decimal.value]
    congr 2
    omega

/-- Each of the three layouts is the text of a numeral that is worth its digits. -/
theorem exists_writes (hds : AreDigits ds) (hhead : ds.head? ≠ some '0') (leading : Int) :
    ∃ n : Numeral, n.Writes ds leading ∧ n.chars =
      if Binary64.positionalFrom ≤ leading ∧ leading < Binary64.positionalBelow
      then Binary64.positional ds leading else Binary64.scientific ds leading := by
  by_cases hplain : Binary64.positionalFrom ≤ leading ∧ leading < Binary64.positionalBelow
  · by_cases hneg : leading < 0
    · refine ⟨_, writes_small hds hneg, ?_⟩
      rw [if_pos hplain, Binary64.positional, if_pos hneg]
      simp [Numeral.chars]
    · refine ⟨_, writes_positional hds hhead (Int.not_lt.mp hneg), ?_⟩
      rw [if_pos hplain, Binary64.positional, if_neg hneg]
      simp [Numeral.chars]
  · cases ds with
    | nil => exact absurd rfl hds.1
    | cons d rest =>
      have hd : d ≠ '0' := fun h => hhead (congrArg some h)
      refine ⟨_, writes_scientific hds hd leading, ?_⟩
      rw [if_neg hplain]
      unfold Binary64.scientific
      cases rest <;> simp [Numeral.chars]

/-- The digits that are laid out are those of the decimal, but for zeros at the end. -/
theorem leadingDigits_spec {d : Decimal} (hd : d.coefficient ≠ 0) :
    AreDigits (Binary64.leadingDigits d).1 ∧ (Binary64.leadingDigits d).1.head? ≠ some '0' ∧
      d.value = digitsValue (Binary64.leadingDigits d).1 *
        10 ^ ((Binary64.leadingDigits d).2 + 1 - (Binary64.leadingDigits d).1.length) := by
  obtain ⟨all, hall⟩ : ∃ all, all = Decimal.digits d.coefficient := ⟨_, rfl⟩
  obtain ⟨ds, hds⟩ : ∃ ds, ds = (all.reverse.dropWhile (· = '0')).reverse := ⟨_, rfl⟩
  obtain ⟨k, hk⟩ : ∃ k, all.reverse.takeWhile (· = '0') = List.replicate k '0' := by
    refine ⟨_, List.eq_replicate_of_mem fun c hc => ?_⟩
    have hzero := List.mem_takeWhile_imp hc
    exact of_decide_eq_true hzero
  -- The digits are those kept and the zeros cut off, which are worth a power of ten.
  have hsplit : all = ds ++ List.replicate k '0' := by
    rw [hds, ← List.reverse_replicate, ← hk, ← List.reverse_append, List.takeWhile_append_dropWhile,
      List.reverse_reverse]
  have hvalue : digitsValue ds * 10 ^ k = d.coefficient := by
    rw [← digitsValue_append_zeros, ← hsplit, hall, digitsValue_digits]
  have hne : ds ≠ [] := by
    rintro rfl
    rw [← hvalue] at hd
    exact hd (Nat.zero_mul _)
  have hmem : ∀ c ∈ ds, c.isDigit = true := by
    intro c hc
    apply (areDigits_digits d.coefficient).2
    rw [← hall, hsplit]
    exact List.mem_append_left _ hc
  have hhead : ds.head? ≠ some '0' := by
    have h := head?_digits hd
    rwa [← hall, hsplit, List.head?_append_of_ne_nil _ hne] at h
  have hexponent : d.exponent + all.length - 1 + 1 - ds.length = k + d.exponent := by
    rw [hsplit, List.length_append, List.length_replicate]
    omega
  simp only [Binary64.leadingDigits, ← hall, ← hds]
  refine ⟨⟨hne, hmem⟩, hhead, ?_⟩
  rw [hexponent, zpow_add₀ (by norm_num), Decimal.value, ← hvalue, zpow_natCast]
  push_cast
  ring

theorem exists_numeral_of_nonnegative {x : Binary64} (hf : x.isFinite = true)
    (hs : x.isNegative = false) :
    ∃ n : Numeral, n.WellFormed ∧ n.negative = false ∧ (n.fraction ≠ none ∨ n.exponent ≠ none) ∧
      n.magnitude.toBinary64 = x ∧ n.chars = x.chars := by
  cases hz : x.isZero with
  | true =>
    have hwritten : Numeral.WellFormed ⟨false, ['0'], some ['0'], none⟩ := by
      have hdigit : AreDigits ['0'] := areDigits_digits 0
      exact ⟨hdigit, fun _ => rfl, by simp [hdigit], by simp⟩
    refine ⟨⟨false, ['0'], some ['0'], none⟩, hwritten, rfl, .inl (by simp), ?_, ?_⟩
    · rw [Binary64.eq_zero_of_isZero hz hs]
      rfl
    · simp [Binary64.chars, hz, hs, Numeral.chars]
  | false =>
    obtain ⟨hds, hhead, hvalue⟩ := leadingDigits_spec (Decimal.coefficient_shortest_ne_zero hf hs hz)
    obtain ⟨n, hn, hchars⟩ := exists_writes hds hhead (Binary64.leadingDigits (.shortest x)).2
    refine ⟨n, hn.wellFormed, hn.unsigned, hn.real, ?_, ?_⟩
    · rw [Decimal.toBinary64_congr (hn.value.trans hvalue.symm)]
      exact Decimal.toBinary64_shortest hf hs
    · simp [Binary64.chars, hz, hs, hchars]

/-- **The text of a finite number is a numeral that stands for that number.** -/
theorem exists_numeral {x : Binary64} (hf : x.isFinite = true) :
    ∃ n : Numeral, n.WellFormed ∧ n.toJson = .real x ∧ n.chars = x.chars := by
  cases hs : x.isNegative with
  | false =>
    obtain ⟨n, hn, hsign, hreal, hvalue, hchars⟩ := exists_numeral_of_nonnegative hf hs
    refine ⟨n, hn, ?_, hchars⟩
    rw [Numeral.toJson, if_neg (by tauto), hvalue, hsign]
    simp
  | true =>
    obtain ⟨n, hn, hsign, hreal, hvalue, hchars⟩ :=
      exists_numeral_of_nonnegative (x := x.negate) (by simpa using hf) (by simp [hs])
    refine ⟨{ n with negative := true }, ⟨hn.whole, hn.leading, hn.fraction, hn.exponent⟩, ?_, ?_⟩
    · have hmagnitude : Numeral.magnitude { n with negative := true } = n.magnitude := rfl
      simp [Numeral.toJson, hmagnitude, hvalue]
    · have hsame : x.chars = '-' :: x.negate.chars := by
        simp [Binary64.chars, hs]
      rw [hsame, ← hchars]
      simp [Numeral.chars, hsign]

end DimensionalMetrics.Json.Scan
