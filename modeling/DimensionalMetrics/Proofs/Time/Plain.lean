import DimensionalMetrics.Proofs.Json.Numerals
import DimensionalMetrics.Proofs.Time.Increments

/-!
# Durations in seconds and nanoseconds

The plain text of a duration gives its seconds and its nanoseconds as two parts.  Every duration has
one, and it is read as the duration.
-/

namespace DimensionalMetrics.Duration

open Json.Scan

/-- The text of a duration as seconds and nanoseconds. -/
def plain (d : Duration) : List Char :=
  Decimal.digits d.seconds.toNat ++ 's' :: ' ' :: (Decimal.digits (d.subsec : Nat) ++ ['n', 's'])

/-! ### Numbers -/

theorem le_foldl_digits (value : Nat) (ds : List Char) :
    value ≤ ds.foldl (fun n c => 10 * n + digitValue c) value := by
  induction ds generalizing value with
  | nil => exact Nat.le_refl value
  | cons c ds ih => exact Nat.le_trans (by omega) (ih (10 * value + digitValue c))

theorem wholeDigits_append {value : Nat} {u : Char} {ds : List Char}
    (hds : ∀ c ∈ ds, c.isDigit = true) (hu : u.isDigit = false ∧ isWhiteSpace u = false)
    (hfits : ds.foldl (fun n c => 10 * n + digitValue c) value < wordCount) (rest : List Char) :
    wholeDigits value (ds ++ u :: rest) =
      .ok (ds.foldl (fun n c => 10 * n + digitValue c) value, u :: rest) := by
  induction ds generalizing value with
  | nil => simp [wholeDigits, hu]
  | cons c ds ih =>
    have hc := hds c List.mem_cons_self
    have hnext : 10 * value + digitValue c < wordCount :=
      Nat.lt_of_le_of_lt (le_foldl_digits _ ds) hfits
    rw [List.cons_append, wholeDigits, if_pos hc, word?_of_lt hnext]
    exact ih (fun c hc => hds c (List.mem_cons_of_mem _ hc)) hfits

theorem isWhiteSpace_of_isDigit {c : Char} (h : c.isDigit = true) : isWhiteSpace c = false := by
  have hrange : 48 ≤ c.toNat ∧ c.toNat ≤ 57 := by
    simpa [Char.isDigit, UInt32.le_iff_toNat_le] using h
  simp only [isWhiteSpace, Bool.or_eq_false_iff, Bool.and_eq_false_iff, decide_eq_false_iff_not,
    beq_eq_false_iff_ne]
  omega

/-- A part that is a number without a fraction. -/
theorem part_digits {n : Nat} (hfits : n < wordCount) {c u : Char} {tail : List Char}
    (us rest : List Char) {unit : TimeUnit} (hdigits : Decimal.digits n = c :: tail)
    (hu : (u.isDigit = false ∧ isWhiteSpace u = false) ∧ u ≠ '.')
    (hname : unitChars (u :: (us ++ rest)) = .ok (u :: us, rest))
    (hunit : TimeUnit.ofSpelling? (String.ofList (u :: us)) = some unit) :
    c.isDigit = true ∧ part c (tail ++ u :: (us ++ rest)) = .ok (⟨n, none⟩, unit, rest) := by
  obtain ⟨-, hall⟩ := areDigits_digits n
  rw [hdigits] at hall
  have hvalue : tail.foldl (fun n c => 10 * n + digitValue c) (digitValue c) = n := by
    have h := digitsValue_digits n
    rw [hdigits] at h
    simpa [digitsValue, digitValue] using h
  have hwhole : wholeDigits (digitValue c) (tail ++ u :: (us ++ rest)) =
      .ok (n, u :: (us ++ rest)) := by
    have h := wholeDigits_append (fun c hc => hall c (List.mem_cons_of_mem _ hc)) hu.1
      (hvalue ▸ hfits) (us ++ rest)
    rwa [hvalue] at h
  have hamount : amount (digitValue c) (tail ++ u :: (us ++ rest)) =
      .ok (⟨n, none⟩, u :: (us ++ rest)) := by
    simp [amount, bind, Except.bind, hwhole, hu.2]
  have hc := hall c List.mem_cons_self
  refine ⟨hc, ?_⟩
  rw [part, if_pos hc, hamount]
  simp only [bind, Except.bind, hname, hunit]

/-! ### Sums -/

/-- An addition without a carry. -/
theorem plus_of_lt {d : Duration} {seconds nanos : Nat} (hsub : (d.subsec : Nat) + nanos < 1000000000)
    (hfits : d.seconds.toNat + seconds < wordCount) :
    d.plus seconds nanos =
      .ok ⟨UInt64.ofNat (d.seconds.toNat + seconds), ⟨(d.subsec : Nat) + nanos, hsub⟩⟩ := by
  have hlarge : 1000000000 < wordCount := by decide
  have hnot : ¬ 1000000000 < (d.subsec : Nat) + nanos := Nat.not_lt.mpr (Nat.le_of_lt hsub)
  have hcarried : carried seconds ((d.subsec : Nat) + nanos) = seconds := if_neg hnot
  have hleft : left ((d.subsec : Nat) + nanos) = (d.subsec : Nat) + nanos := if_neg hnot
  rw [plus_eq, hcarried, hleft, if_pos ⟨Nat.lt_trans hsub hlarge, hfits⟩]
  simp [make?, Nat.div_eq_of_lt hsub, Nat.mod_eq_of_lt hsub, hfits]

theorem plusPart_whole {d : Duration} (n : Nat) (unit : TimeUnit) :
    d.plusPart ⟨n, none⟩ unit = d.add (unit.size.times n) := by
  rw [plusPart_eq]
  cases d.add (unit.size.times n) <;> rfl

theorem parts_of_part {d d' : Duration} {fuel n : Nat} {c : Char} {cs cs' rest : List Char}
    {unit : TimeUnit} (hdrop : cs.dropWhile isWhiteSpace = c :: cs')
    (hpart : part c cs' = .ok (⟨n, none⟩, unit, rest)) (hadd : d.add (unit.size.times n) = .ok d') :
    parts (fuel + 1) d cs = parts fuel d' rest := by
  rw [parts_succ hdrop, hpart]
  simp only [plusPart_whole, hadd]

theorem add_seconds (s : UInt64) :
    zero.add (TimeUnit.second.size.times s.toNat) = .ok ⟨s, 0⟩ := by
  have hsub : (zero.subsec : Nat) + 0 < 1000000000 := by decide
  have hfits : zero.seconds.toNat + s.toNat < wordCount := by
    rw [show zero.seconds.toNat = 0 from rfl, Nat.zero_add]
    exact s.toNat_lt
  have hadd : zero.add (TimeUnit.second.size.times s.toNat) = zero.plus s.toNat 0 := by
    rw [TimeUnit.size, TimeUnit.Size.times, Nat.mul_one, add]
  rw [hadd, plus_of_lt hsub hfits]
  simp [zero]

theorem add_nanoseconds (d : Duration) :
    add ⟨d.seconds, 0⟩ (TimeUnit.nanosecond.size.times (d.subsec : Nat)) = .ok d := by
  have hsub : ((0 : Fin 1000000000) : Nat) + (d.subsec : Nat) < 1000000000 := by
    rw [Fin.val_zero, Nat.zero_add]
    exact d.subsec.isLt
  have hadd : add ⟨d.seconds, 0⟩ (TimeUnit.nanosecond.size.times (d.subsec : Nat)) =
      plus ⟨d.seconds, 0⟩ 0 (d.subsec : Nat) := by
    rw [TimeUnit.size, TimeUnit.Size.times, Nat.mul_one, add]
  rw [hadd, plus_of_lt hsub d.seconds.toNat_lt]
  simp

/-- **The plain text of a duration is read as the duration.** -/
theorem read_plain (d : Duration) : read (String.ofList d.plain) = .ok d := by
  obtain ⟨c, tail, hseconds⟩ := List.exists_cons_of_ne_nil (areDigits_digits d.seconds.toNat).1
  obtain ⟨c', tail', hnanos⟩ := List.exists_cons_of_ne_nil (areDigits_digits (d.subsec : Nat)).1
  have hfits : (d.subsec : Nat) < wordCount :=
    Nat.lt_trans d.subsec.isLt (by decide)
  have hplain : d.plain = c :: (tail ++ 's' :: ' ' :: c' :: (tail' ++ ['n', 's'])) := by
    rw [plain, hseconds, hnanos]
    rfl
  obtain ⟨hc, hpart⟩ := part_digits d.seconds.toNat_lt [] (' ' :: c' :: (tail' ++ ['n', 's']))
    hseconds (u := 's') (by decide) rfl rfl
  obtain ⟨hc', hpart'⟩ := part_digits hfits ['s'] [] hnanos (u := 'n') (by decide) rfl rfl
  have hspace := isWhiteSpace_of_isDigit hc
  have hspace' := isWhiteSpace_of_isDigit hc'
  have hlength : ∃ fuel, d.plain.length = fuel + 1 + 1 := by
    refine ⟨(tail ++ ' ' :: c' :: (tail' ++ ['n', 's'])).length, ?_⟩
    rw [hplain]
    simp only [List.length_cons, List.length_append]
    omega
  obtain ⟨fuel, hlength⟩ := hlength
  have hzero : d.plain ≠ ['0'] := by
    intro h
    rw [h] at hlength
    simp at hlength
  have hblank : d.plain.all isWhiteSpace = false := by
    rw [hplain, List.all_cons, hspace, Bool.false_and]
  have hfirst : d.plain.dropWhile isWhiteSpace = d.plain := by
    rw [hplain, List.dropWhile_cons_of_neg (by simp [hspace])]
  have hsecond : (' ' :: c' :: (tail' ++ ['n', 's'])).dropWhile isWhiteSpace =
      c' :: (tail' ++ ['n', 's']) := by
    rw [List.dropWhile_cons_of_pos (by decide), List.dropWhile_cons_of_neg (by simp [hspace'])]
  rw [read_eq_parts (by rwa [String.toList_ofList]) (by rwa [String.toList_ofList]),
    String.toList_ofList, hlength, parts_of_part (hfirst.trans hplain) hpart (add_seconds d.seconds),
    parts_of_part hsecond hpart' (add_nanoseconds d)]
  cases fuel <;> rfl

end DimensionalMetrics.Duration
