import DimensionalMetrics.Time.Reader
import Mathlib.Algebra.BigOperators.Group.List.Basic
import Mathlib.Data.List.TakeWhile
import Mathlib.Tactic.Ring

/-!
# What a duration text adds up to

Reading a duration is to cut its text into parts and to add them up from left to right.  This module
takes the two apart: `increments` is what the parts of a text come to, in nanoseconds or in seconds,
and `addAll` adds it up.  The sum is exact, and a sum that does not fit is refused, but in one case:
when nanoseconds make the last second full that fits, the reading breaks off.
-/

namespace DimensionalMetrics.Duration

/-! ### Adding -/

/-- The length of an increment in nanoseconds. -/
def TimeUnit.Size.nanos : TimeUnit.Size → Nat
  | nanoseconds n => n
  | seconds s => s * 1000000000

def add (d : Duration) : TimeUnit.Size → Except Fault Duration
  | .nanoseconds n => d.plus 0 n
  | .seconds s => d.plus s 0

def addAll (d : Duration) : List TimeUnit.Size → Except Fault Duration
  | [] => .ok d
  | i :: rest =>
    match d.add i with
    | .error e => .error e
    | .ok d => d.addAll rest

/-- The length of all increments together. -/
def total (is : List TimeUnit.Size) : Nat := (is.map TimeUnit.Size.nanos).sum

theorem total_nil : total [] = 0 := rfl

theorem total_cons (i : TimeUnit.Size) (is : List TimeUnit.Size) :
    total (i :: is) = i.nanos + total is := by
  rw [total, List.map_cons, List.sum_cons, total]

theorem word?_of_lt {n : Nat} (h : n < wordCount) : word? n = .ok n := if_pos h

theorem word?_of_le {n : Nat} (h : wordCount ≤ n) : word? n = .error .invalid :=
  if_neg (Nat.not_lt.mpr h)

theorem make?_eq_none_iff {seconds nanos : Nat} :
    make? seconds nanos = none ↔ wordCount ≤ seconds + nanos / 1000000000 := by
  simp only [make?, ite_eq_right_iff, reduceCtorEq, imp_false, Nat.not_lt]

theorem nanos_of_make? {seconds nanos : Nat} {d : Duration} (h : make? seconds nanos = some d) :
    d.nanos = seconds * 1000000000 + nanos := by
  simp only [make?, Option.ite_none_right_eq_some, Option.some.injEq] at h
  obtain ⟨hlt, rfl⟩ := h
  have hword : (UInt64.ofNat (seconds + nanos / 1000000000)).toNat = seconds + nanos / 1000000000 :=
    UInt64.toNat_ofNat_of_lt' hlt
  simp only [Duration.nanos, hword]
  omega

variable {d d' : Duration}

/-- The seconds that are added and those that are carried with a check; a second that is just full
is not among these. -/
def carried (seconds nanos : Nat) : Nat :=
  if 1000000000 < nanos then seconds + nanos / 1000000000 else seconds

/-- The nanoseconds that are left. -/
def left (nanos : Nat) : Nat := if 1000000000 < nanos then nanos % 1000000000 else nanos

theorem carried_add_left (seconds nanos : Nat) :
    carried seconds nanos * 1000000000 + left nanos = seconds * 1000000000 + nanos ∧
      left nanos ≤ 1000000000 := by
  unfold carried left
  by_cases h : 1000000000 < nanos
  · rw [if_pos h, if_pos h]
    omega
  · rw [if_neg h, if_neg h]
    omega

/-- An addition is refused if it does not fit before a full second is carried, and it breaks off if
it does not fit any more then. -/
theorem plus_eq (d : Duration) (seconds nanos : Nat) :
    d.plus seconds nanos =
      if d.subsec + nanos < wordCount ∧
          d.seconds.toNat + carried seconds (d.subsec + nanos) < wordCount then
        (make? (d.seconds.toNat + carried seconds (d.subsec + nanos))
          (left (d.subsec + nanos))).elim (.error .carry) .ok
      else .error .invalid := by
  unfold plus
  by_cases hnanos : d.subsec + nanos < wordCount
  · by_cases hfull : 1000000000 < d.subsec + nanos
    · have hcarried : carried seconds (d.subsec + nanos) =
          seconds + (d.subsec + nanos) / 1000000000 := if_pos hfull
      have hleft : left (d.subsec + nanos) = (d.subsec + nanos) % 1000000000 := if_pos hfull
      rw [hcarried, hleft]
      by_cases hsum : seconds + (d.subsec + nanos) / 1000000000 < wordCount
      · by_cases htotal :
            d.seconds.toNat + (seconds + (d.subsec + nanos) / 1000000000) < wordCount
        · simp only [bind, Except.bind, word?, hnanos, hfull, hsum, htotal, if_true, and_self]
          cases make? (d.seconds.toNat + (seconds + (d.subsec + nanos) / 1000000000))
            ((d.subsec + nanos) % 1000000000) <;> rfl
        · simp [bind, Except.bind, word?, hnanos, hfull, hsum, htotal]
      · have htotal :
            ¬ d.seconds.toNat + (seconds + (d.subsec + nanos) / 1000000000) < wordCount := by
          omega
        simp [bind, Except.bind, word?, hnanos, hfull, hsum, htotal]
    · have hcarried : carried seconds (d.subsec + nanos) = seconds := if_neg hfull
      have hleft : left (d.subsec + nanos) = d.subsec + nanos := if_neg hfull
      rw [hcarried, hleft]
      by_cases htotal : d.seconds.toNat + seconds < wordCount
      · simp only [bind, Except.bind, word?, hnanos, hfull, htotal, if_true, if_false, and_self]
        cases make? (d.seconds.toNat + seconds) (d.subsec + nanos) <;> rfl
      · simp [bind, Except.bind, word?, hnanos, hfull, htotal]
  · simp [bind, Except.bind, word?, hnanos]

theorem nanos_of_plus {seconds nanos : Nat} (h : d.plus seconds nanos = .ok d') :
    d'.nanos = d.nanos + seconds * 1000000000 + nanos := by
  rw [plus_eq] at h
  split at h
  · cases hmake : make? (d.seconds.toNat + carried seconds (d.subsec + nanos))
        (left (d.subsec + nanos)) with
    | none =>
      rw [hmake] at h
      cases h
    | some made =>
      rw [hmake, Option.elim_some, Except.ok.injEq] at h
      subst h
      calc made.nanos
          = (d.seconds.toNat + carried seconds (d.subsec + nanos)) * 1000000000 +
            left (d.subsec + nanos) := nanos_of_make? hmake
        _ = d.seconds.toNat * 1000000000 + (seconds * 1000000000 + (d.subsec + nanos)) := by
            rw [Nat.add_mul, Nat.add_assoc, (carried_add_left seconds (d.subsec + nanos)).1]
        _ = d.nanos + seconds * 1000000000 + nanos := by
            rw [Duration.nanos]
            ring
  · cases h

/-- The only addition that breaks off is that of the nanoseconds that make the last second full. -/
theorem plus_eq_carry_iff {seconds nanos : Nat} : d.plus seconds nanos = .error .carry ↔
    d.subsec + nanos = 1000000000 ∧ d.seconds.toNat + seconds = largestWord := by
  have hword : wordCount = largestWord + 1 := rfl
  have hlarge : 1000000000 < wordCount := by decide
  have hsum := carried_add_left seconds (d.subsec + nanos)
  have hcarry : d.plus seconds nanos = .error .carry ↔ d.subsec + nanos < wordCount ∧
      d.seconds.toNat + carried seconds (d.subsec + nanos) < wordCount ∧
      wordCount ≤ d.seconds.toNat + carried seconds (d.subsec + nanos) +
        left (d.subsec + nanos) / 1000000000 := by
    rw [plus_eq, ← make?_eq_none_iff]
    split
    · rename_i hfits
      cases make? (d.seconds.toNat + carried seconds (d.subsec + nanos))
        (left (d.subsec + nanos)) with
      | none => simp [hfits]
      | some made => simp
    · rename_i hfits
      simp only [Except.error.injEq, reduceCtorEq, false_iff]
      exact fun h => hfits ⟨h.1, h.2.1⟩
  rw [hcarry]
  constructor
  · rintro ⟨hnanos, hseconds, hmade⟩
    -- Only a full second that is left over can be what does not fit.
    have hleft : left (d.subsec + nanos) = 1000000000 := by omega
    have hfull : d.subsec + nanos = 1000000000 := by
      unfold left at hleft
      split at hleft
      · have := Nat.mod_lt (d.subsec + nanos) (show 0 < 1000000000 by decide)
        omega
      · exact hleft
    omega
  · rintro ⟨hfull, hlast⟩
    have hleft : left (d.subsec + nanos) = 1000000000 := by
      rw [hfull]
      rfl
    omega

theorem nanos_of_add {i : TimeUnit.Size} (h : d.add i = .ok d') : d'.nanos = d.nanos + i.nanos := by
  cases i with
  | nanoseconds n =>
    have hsum := nanos_of_plus h
    rwa [Nat.zero_mul, Nat.add_zero] at hsum
  | seconds s =>
    have hsum := nanos_of_plus h
    rwa [Nat.add_zero] at hsum

theorem add_eq_carry_iff {i : TimeUnit.Size} : d.add i = .error .carry ↔
    ∃ n : Nat, i = .nanoseconds n ∧ (d.subsec : Nat) + n = 1000000000 ∧
      d.seconds.toNat = largestWord := by
  cases i with
  | nanoseconds n =>
    rw [add, plus_eq_carry_iff, Nat.add_zero]
    simp
  | seconds s =>
    rw [add, plus_eq_carry_iff, Nat.add_zero]
    simp [Nat.ne_of_lt d.subsec.isLt]

theorem addAll_cons_of_ok {i : TimeUnit.Size} (h : d.add i = .ok d') (is : List TimeUnit.Size) :
    d.addAll (i :: is) = d'.addAll is := by
  rw [addAll, h]

theorem addAll_cons_of_error {i : TimeUnit.Size} {e : Fault} (h : d.add i = .error e)
    (is : List TimeUnit.Size) : d.addAll (i :: is) = .error e := by
  rw [addAll, h]

/-- **A sum is exact.** -/
theorem nanos_of_addAll {is : List TimeUnit.Size} (h : d.addAll is = .ok d') :
    d'.nanos = d.nanos + total is := by
  induction is generalizing d with
  | nil =>
    obtain rfl := Except.ok.inj h
    rw [total_nil, Nat.add_zero]
  | cons i is ih =>
    cases hadd : d.add i with
    | error e =>
      rw [addAll_cons_of_error hadd] at h
      cases h
    | ok d'' =>
      rw [addAll_cons_of_ok hadd] at h
      rw [ih h, nanos_of_add hadd, Nat.add_assoc, total_cons]

theorem nanos_of_zero_addAll {is : List TimeUnit.Size} (h : zero.addAll is = .ok d) :
    d.nanos = total is := by
  have hzero : zero.nanos = 0 := by decide
  rw [nanos_of_addAll h, hzero, Nat.zero_add]

/-- A sum breaks off at the increment that makes the last second full. -/
theorem addAll_eq_carry_iff {is : List TimeUnit.Size} : d.addAll is = .error .carry ↔
    ∃ (before : List TimeUnit.Size) (n : Nat) (after : List TimeUnit.Size) (d' : Duration),
      is = before ++ .nanoseconds n :: after ∧ d.addAll before = .ok d' ∧
      (d'.subsec : Nat) + n = 1000000000 ∧ d'.seconds.toNat = largestWord := by
  induction is generalizing d with
  | nil => simp [addAll]
  | cons i is ih =>
    constructor
    · intro h
      cases hadd : d.add i with
      | error e =>
        rw [addAll_cons_of_error hadd] at h
        obtain rfl := Except.error.inj h
        obtain ⟨n, rfl, hfull, hlast⟩ := add_eq_carry_iff.mp hadd
        exact ⟨[], n, is, d, rfl, rfl, hfull, hlast⟩
      | ok d'' =>
        rw [addAll_cons_of_ok hadd] at h
        obtain ⟨before, n, after, d', rfl, hbefore, hfull, hlast⟩ := ih.mp h
        exact ⟨i :: before, n, after, d', rfl, (addAll_cons_of_ok hadd before).trans hbefore, hfull,
          hlast⟩
    · rintro ⟨before, n, after, d', heq, hbefore, hfull, hlast⟩
      cases before with
      | nil =>
        obtain ⟨rfl, rfl⟩ := List.cons.inj heq
        obtain rfl := Except.ok.inj hbefore
        exact addAll_cons_of_error (add_eq_carry_iff.mpr ⟨n, rfl, hfull, hlast⟩) is
      | cons i' before =>
        obtain ⟨rfl, rfl⟩ := List.cons.inj heq
        cases hadd : d.add i with
        | error e =>
          rw [addAll_cons_of_error hadd] at hbefore
          cases hbefore
        | ok d'' =>
          rw [addAll_cons_of_ok hadd] at hbefore ⊢
          exact ih.mpr ⟨before, n, after, d', rfl, hbefore, hfull, hlast⟩

/-! ### Cutting a text into parts -/

def TimeUnit.Size.times (k : Nat) : TimeUnit.Size → TimeUnit.Size
  | nanoseconds n => nanoseconds (k * n)
  | seconds s => seconds (k * s)

/-- The fraction of a unit, if it comes to whole steps. -/
def TimeUnit.Size.portion? (numerator denominator : Nat) : TimeUnit.Size → Option TimeUnit.Size
  | nanoseconds n =>
    if numerator * n < wordCount ∧ numerator * n % denominator = 0 then
      some (nanoseconds (numerator * n / denominator))
    else none
  | seconds s =>
    if numerator * s < wordCount ∧ numerator * s % denominator = 0 then
      some (seconds (numerator * s / denominator))
    else none

/-- What a part adds after its whole number of units: the fraction, if it has one. -/
def Amount.rest? (a : Amount) (unit : TimeUnit) : Option (List TimeUnit.Size) :=
  match a.fraction with
  | none => some []
  | some (numerator, denominator) =>
    (unit.fractionSize?.bind (·.portion? numerator denominator)).map fun i => [i]

theorem plusSize_eq_add (d : Duration) (count : Nat) (size : TimeUnit.Size) :
    d.plusSize count size = d.add (size.times count) := by
  -- What does not fit as an increment does not fit as a sum either.
  cases size with
  | nanoseconds n =>
    rw [plusSize, TimeUnit.Size.times, add]
    by_cases hfits : count * n < wordCount
    · rw [word?_of_lt hfits]
      rfl
    · have hsum : ¬ d.subsec + count * n < wordCount := by omega
      rw [word?_of_le (Nat.le_of_not_lt hfits), plus_eq, if_neg fun h => hsum h.1]
      rfl
  | seconds s =>
    rw [plusSize, TimeUnit.Size.times, add]
    by_cases hfits : count * s < wordCount
    · rw [word?_of_lt hfits]
      rfl
    · have hsmall : ¬ 1000000000 < (d.subsec : Nat) + 0 := Nat.not_lt.mpr d.subsec.isLt.le
      have hsum : ¬ d.seconds.toNat + carried (count * s) (d.subsec + 0) < wordCount := by
        rw [carried, if_neg hsmall]
        omega
      rw [word?_of_le (Nat.le_of_not_lt hfits), plus_eq, if_neg fun h => hsum h.2]
      rfl

theorem plusPart_eq (d : Duration) (a : Amount) (unit : TimeUnit) :
    d.plusPart a unit =
      match d.add (unit.size.times a.whole) with
      | .error e => .error e
      | .ok d =>
        match a.rest? unit with
        | none => .error .invalid
        | some is => d.addAll is := by
  have hone : ∀ (d : Duration) (i : TimeUnit.Size), d.add i = d.addAll [i] := by
    intro d i
    rw [addAll]
    cases d.add i <;> rfl
  rw [plusPart, plusSize_eq_add]
  cases d.add (unit.size.times a.whole) with
  | error e => rfl
  | ok d =>
    unfold Amount.rest?
    rcases a.fraction with _ | ⟨numerator, denominator⟩
    · rfl
    · rcases unit.fractionSize? with _ | n | s
      · simp [bind, Except.bind]
      · by_cases hfits : numerator * n < wordCount
        · by_cases hwhole : numerator * n % denominator = 0
          · simpa [bind, Except.bind, word?, TimeUnit.Size.portion?, hfits, hwhole, add] using
              hone d (.nanoseconds (numerator * n / denominator))
          · simp [bind, Except.bind, word?, TimeUnit.Size.portion?, hfits, hwhole]
        · simp [bind, Except.bind, word?, TimeUnit.Size.portion?, hfits]
      · by_cases hfits : numerator * s < wordCount
        · by_cases hwhole : numerator * s % denominator = 0
          · simpa [bind, Except.bind, word?, TimeUnit.Size.portion?, hfits, hwhole, add] using
              hone d (.seconds (numerator * s / denominator))
          · simp [bind, Except.bind, word?, TimeUnit.Size.portion?, hfits, hwhole]
        · simp [bind, Except.bind, word?, TimeUnit.Size.portion?, hfits]

/-- A part of a text, after its first character, and the text after the part. -/
def part (first : Char) (cs : List Char) : Except Fault (Amount × TimeUnit × List Char) :=
  if first.isDigit then do
    let (a, rest) ← amount (digitValue first) cs
    let (name, rest) ← unitChars rest
    match TimeUnit.ofSpelling? (String.ofList name) with
    | none => .error .invalid
    | some unit => .ok (a, unit, rest)
  else .error .invalid

/-- What the parts of a text add, up to the first one that cannot be read, and whether all of them
can.  `fuel` bounds the number of parts. -/
def incrementsOf (fuel : Nat) (cs : List Char) : List TimeUnit.Size × Bool :=
  match fuel, cs.dropWhile isWhiteSpace with
  | _, [] => ([], true)
  | 0, _ => ([], false)
  | fuel + 1, c :: rest =>
    match part c rest with
    | .error _ => ([], false)
    | .ok (a, unit, rest) =>
      match a.rest? unit with
      | none => ([unit.size.times a.whole], false)
      | some is =>
        (unit.size.times a.whole :: (is ++ (incrementsOf fuel rest).1), (incrementsOf fuel rest).2)

/-! ### The text itself never breaks the reading off -/

/-- A step that may be refused but does not break off. -/
def Refusable {α : Type} (x : Except Fault α) : Prop := x ≠ .error .carry

theorem Refusable.ok {α : Type} (a : α) : Refusable (.ok a) := by simp [Refusable]

theorem Refusable.invalid {α : Type} : Refusable (.error .invalid : Except Fault α) := by
  simp [Refusable]

theorem Refusable.bind {α β : Type} {x : Except Fault α} {f : α → Except Fault β}
    (hx : Refusable x) (hf : ∀ a, Refusable (f a)) : Refusable (x >>= f) := by
  cases x with
  | error e =>
    intro h
    obtain rfl := Except.error.inj h
    exact hx rfl
  | ok a => exact hf a

theorem refusable_word? (n : Nat) : Refusable (word? n) := by
  unfold word?
  split
  · exact .ok n
  · exact .invalid

theorem refusable_wholeDigits (value : Nat) (cs : List Char) :
    Refusable (wholeDigits value cs) := by
  fun_induction wholeDigits value cs with
  | case1 value => exact .ok _
  | case2 value c rest hdigit ih => exact (refusable_word? _).bind ih
  | case3 value c rest hdigit hspace ih => exact ih
  | case4 value c rest hdigit hspace => exact .ok _

theorem refusable_fractionDigits (numerator denominator : Nat) (cs : List Char) :
    Refusable (fractionDigits numerator denominator cs) := by
  fun_induction fractionDigits numerator denominator cs with
  | case1 => exact .ok _
  | case2 numerator denominator c rest hdigit ih =>
    exact (refusable_word? _).bind fun n => (refusable_word? _).bind fun k => ih n k
  | case3 numerator denominator c rest hdigit hspace ih => exact ih
  | case4 => exact .ok _

theorem refusable_amount (first : Nat) (cs : List Char) : Refusable (amount first cs) := by
  refine (refusable_wholeDigits first cs).bind ?_
  rintro ⟨whole, rest⟩
  split
  · refine (refusable_fractionDigits 0 1 _).bind ?_
    rintro ⟨⟨numerator, denominator⟩, rest⟩
    dsimp only
    split
    · exact .invalid
    · exact .ok _
  · exact .ok _

theorem refusable_unitChars (cs : List Char) : Refusable (unitChars cs) := by
  fun_induction unitChars cs with
  | case1 => exact .ok _
  | case2 c rest hunit ih => exact ih.bind fun _ => .ok _
  | case3 => exact .ok _
  | case4 => exact .invalid

/-! ### Reading is adding -/

/-- A sum is the answer if all parts can be read. -/
def conclude (complete : Bool) : Except Fault Duration → Except Fault Duration
  | .error e => .error e
  | .ok d => if complete then .ok d else .error .invalid

theorem addAll_append (d : Duration) (is js : List TimeUnit.Size) :
    d.addAll (is ++ js) =
      match d.addAll is with
      | .error e => .error e
      | .ok d => d.addAll js := by
  induction is generalizing d with
  | nil => rfl
  | cons i is ih =>
    rw [List.cons_append, addAll, addAll]
    cases d.add i with
    | error e => rfl
    | ok d => exact ih d

theorem parts_succ {fuel : Nat} {cs rest : List Char} {c : Char}
    (h : cs.dropWhile isWhiteSpace = c :: rest) (d : Duration) :
    parts (fuel + 1) d cs =
      match part c rest with
      | .error _ => .error .invalid
      | .ok (a, unit, rest) =>
        match d.plusPart a unit with
        | .error e => .error e
        | .ok d => parts fuel d rest := by
  have hinvalid : ∀ {α : Type} {x : Except Fault α} {e : Fault}, Refusable x → x = .error e →
      e = .invalid := by
    intro α x e hx he
    cases e with
    | invalid => rfl
    | carry => exact absurd he hx
  rw [parts.eq_def]
  simp only [h]
  unfold part
  by_cases hdigit : c.isDigit = true
  · rw [if_pos hdigit, if_pos hdigit]
    cases hamount : amount (digitValue c) rest with
    | error e =>
      obtain rfl := hinvalid (refusable_amount _ _) hamount
      rfl
    | ok p =>
      obtain ⟨a, after⟩ := p
      simp only [bind, Except.bind]
      cases hunit : unitChars after with
      | error e =>
        obtain rfl := hinvalid (refusable_unitChars _) hunit
        rfl
      | ok p =>
        obtain ⟨name, rest⟩ := p
        dsimp only
        cases TimeUnit.ofSpelling? (String.ofList name) with
        | none => rfl
        | some unit =>
          dsimp only
          cases d.plusPart a unit <;> rfl
  · rw [if_neg hdigit, if_neg hdigit]

theorem incrementsOf_succ {fuel : Nat} {cs rest : List Char} {c : Char}
    (h : cs.dropWhile isWhiteSpace = c :: rest) :
    incrementsOf (fuel + 1) cs =
      match part c rest with
      | .error _ => ([], false)
      | .ok (a, unit, rest) =>
        match a.rest? unit with
        | none => ([unit.size.times a.whole], false)
        | some is => (unit.size.times a.whole :: (is ++ (incrementsOf fuel rest).1),
            (incrementsOf fuel rest).2) := by
  rw [incrementsOf.eq_def]
  simp only [h]

/-- **Reading a text adds up what its parts come to.** -/
theorem parts_eq (fuel : Nat) (d : Duration) (cs : List Char) :
    parts fuel d cs = conclude (incrementsOf fuel cs).2 (d.addAll (incrementsOf fuel cs).1) := by
  induction fuel generalizing d cs with
  | zero =>
    cases hcs : cs.dropWhile isWhiteSpace with
    | nil => simp [parts, incrementsOf, hcs, addAll, conclude]
    | cons c rest => simp [parts, incrementsOf, hcs, addAll, conclude]
  | succ fuel ih =>
    cases hcs : cs.dropWhile isWhiteSpace with
    | nil => simp [parts, incrementsOf, hcs, addAll, conclude]
    | cons c rest =>
      rw [parts_succ hcs, incrementsOf_succ hcs]
      rcases part c rest with e | ⟨a, unit, rest⟩
      · rfl
      · dsimp only
        rw [plusPart_eq]
        cases hadd : d.add (unit.size.times a.whole) with
        | error e =>
          cases a.rest? unit with
          | none => simp [addAll_cons_of_error hadd, conclude]
          | some is => simp [addAll_cons_of_error hadd, conclude]
        | ok d' =>
          cases a.rest? unit with
          | none =>
            rw [addAll_cons_of_ok hadd]
            rfl
          | some is =>
            simp only [addAll_cons_of_ok hadd, addAll_append]
            cases d'.addAll is with
            | error e => rfl
            | ok d'' => exact ih d'' rest

/-! ### Texts -/

/-- What the parts of a text add, and whether all of them can be read. -/
def increments (s : String) : List TimeUnit.Size × Bool := incrementsOf s.toList.length s.toList

/-- The parts of a text come to the last second that fits, and the next thing to be added is just
the nanoseconds that are missing from it. -/
def FillsLastSecond (s : String) : Prop :=
  ∃ (before : List TimeUnit.Size) (n : Nat) (after : List TimeUnit.Size),
    (increments s).1 = before ++ .nanoseconds n :: after ∧ (∃ d, zero.addAll before = .ok d) ∧
      largestWord * 1000000000 ≤ total before ∧ total before + n = wordCount * 1000000000

theorem read_eq_parts {s : String} (hzero : s.toList ≠ ['0'])
    (hspace : s.toList.all isWhiteSpace = false) : read s = parts s.toList.length zero s.toList := by
  rw [read, if_neg hzero, if_neg (by simp [hspace])]

theorem increments_zero : increments "0" = ([], false) := by decide

theorem increments_of_spaces {s : String} (hspace : s.toList.all isWhiteSpace = true) :
    increments s = ([], true) := by
  have hnil : s.toList.dropWhile isWhiteSpace = [] :=
    List.dropWhile_eq_nil_iff.mpr (List.all_eq_true.mp hspace)
  rw [increments, incrementsOf.eq_def]
  simp only [hnil]

theorem not_fillsLastSecond_of_nil {s : String} (h : (increments s).1 = []) :
    ¬ FillsLastSecond s := by
  rintro ⟨before, n, after, heq, -⟩
  rw [h] at heq
  simp at heq

/-- **Reading breaks off just where the last second is made full.** -/
theorem read_eq_carry_iff (s : String) : read s = .error .carry ↔ FillsLastSecond s := by
  by_cases hzero : s.toList = ['0']
  · obtain rfl : s = "0" := String.toList_inj.mp hzero
    simp [read, not_fillsLastSecond_of_nil (congrArg Prod.fst increments_zero)]
  by_cases hspace : s.toList.all isWhiteSpace = true
  · have hincrements := increments_of_spaces hspace
    simp [read, hzero, hspace, not_fillsLastSecond_of_nil (congrArg Prod.fst hincrements)]
  have hconclude : ∀ complete x, conclude complete x = .error .carry ↔ x = .error .carry := by
    intro complete x
    rcases x with e | d
    · rfl
    · cases complete <;> simp [conclude]
  rw [read_eq_parts hzero (by simpa using hspace), parts_eq, hconclude, addAll_eq_carry_iff]
  have hword : wordCount = largestWord + 1 := rfl
  constructor
  · rintro ⟨before, n, after, d, hincrements, hbefore, hfull, hlast⟩
    have hsum := nanos_of_zero_addAll hbefore
    have hnanos : d.nanos = largestWord * 1000000000 + d.subsec := by rw [Duration.nanos, hlast]
    exact ⟨before, n, after, hincrements, ⟨d, hbefore⟩, by omega, by omega⟩
  · rintro ⟨before, n, after, hincrements, ⟨d, hbefore⟩, hlast, hfull⟩
    have hsum := nanos_of_zero_addAll hbefore
    have hsub : (d.subsec : Nat) < 1000000000 := d.subsec.isLt
    have hseconds : d.seconds.toNat < wordCount := d.seconds.toNat_lt
    have hnanos : d.nanos = d.seconds.toNat * 1000000000 + d.subsec := rfl
    exact ⟨before, n, after, d, hincrements, hbefore, by omega, by omega⟩

/-- **What is read is the exact sum of all parts.** -/
theorem nanos_of_read {s : String} {d : Duration} (h : read s = .ok d) (hzero : s ≠ "0") :
    (increments s).2 = true ∧ d.nanos = total (increments s).1 := by
  have hchars : s.toList ≠ ['0'] := fun he => hzero (String.toList_inj.mp he)
  by_cases hspace : s.toList.all isWhiteSpace = true
  · simp [read, hchars, hspace] at h
  rw [read_eq_parts hchars (by simpa using hspace), parts_eq] at h
  cases hadd : zero.addAll (incrementsOf s.toList.length s.toList).1 with
  | error e =>
    rw [hadd] at h
    cases h
  | ok sum =>
    rw [hadd, conclude] at h
    split at h
    · rename_i hcomplete
      obtain rfl := Except.ok.inj h
      exact ⟨hcomplete, nanos_of_zero_addAll hadd⟩
    · cases h

/-- What is read fits. -/
theorem total_lt_of_read {s : String} {d : Duration} (h : read s = .ok d) :
    total (increments s).1 < wordCount * 1000000000 := by
  by_cases hzero : s = "0"
  · rw [hzero, increments_zero]
    decide
  · rw [← (nanos_of_read h hzero).2, Duration.nanos]
    have hseconds : d.seconds.toNat < wordCount := d.seconds.toNat_lt
    have hsub : (d.subsec : Nat) < 1000000000 := d.subsec.isLt
    omega

end DimensionalMetrics.Duration
