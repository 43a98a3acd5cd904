import DimensionalMetrics.Meter
import Mathlib.Data.List.Forall2
import Mathlib.Data.List.Induction
import Mathlib.Data.Nat.ModEq

/-!
# What a cell accumulates

The life of one cell is a list of events: updates, and the moments at which its contents were taken
and it began anew.  From such a history the contents of the cell can be told, and so can what was
taken from it: deltas of a counter add up modulo `2 ^ 64`, and the amounts that a timer or a
distribution summary accepted are cut into periods, each of which was counted as a whole.
-/

namespace DimensionalMetrics

/-! ### What an update contributes -/

/-- What an update adds to a counter. -/
def Update.delta? : Update → Option UInt64
  | add delta => some delta
  | _ => none

/-- The amount that an update records, if it is accepted: times are clamped to the largest word of
nanoseconds, and negative amounts are not accepted. -/
def Update.amount? : Update → Option Nat
  | recordTime d => some (min d.nanos largestWord)
  | recordAmount a => if 0 ≤ a then some a.toInt.toNat else none
  | _ => none

theorem toNat_clampedNanos (d : Duration) : d.clampedNanos.toNat = min d.nanos largestWord := by
  unfold Duration.clampedNanos
  rw [UInt64.toNat_ofNat']
  apply Nat.mod_eq_of_lt
  simp only [largestWord]
  omega

/-! ### Periods -/

/-- The largest of some amounts, or zero. -/
def largestAmount (amounts : List Nat) : Nat := amounts.foldr max 0

theorem largestAmount_append (amounts : List Nat) (a : Nat) :
    largestAmount (amounts ++ [a]) = max (largestAmount amounts) a := by
  unfold largestAmount
  induction amounts with
  | nil => simp
  | cons b rest ih => rw [List.cons_append, List.foldr_cons, List.foldr_cons, ih, Nat.max_assoc]

/-- A period is the exact account of a list of amounts.  Its counter is a word, so it tells the
number of amounts only as long as that is one. -/
structure Period.Tallies (amounts : List Nat) (p : Period) : Prop where
  count : amounts.length < wordCount → p.count.toNat = amounts.length
  total : p.total.toNat = min largestWord amounts.sum
  max : p.max.toNat = largestAmount amounts

theorem Period.tallies_empty : Period.empty.Tallies [] :=
  ⟨fun _ => rfl, rfl, rfl⟩

theorem Period.toNat_saturatingAdd (a b : UInt64) :
    (saturatingAdd a b).toNat = min (a.toNat + b.toNat) largestWord := by
  unfold saturatingAdd
  rw [UInt64.toNat_ofNat']
  apply Nat.mod_eq_of_lt
  simp only [largestWord]
  omega

theorem Period.toNat_larger (a b : UInt64) :
    (if a < b then b else a).toNat = Nat.max a.toNat b.toNat := by
  split
  · rename_i hlt
    exact (Nat.max_eq_right (Nat.le_of_lt (UInt64.lt_iff_toNat_lt.mp hlt))).symm
  · rename_i hge
    exact (Nat.max_eq_left (UInt64.le_iff_toNat_le.mp (UInt64.not_lt.mp hge))).symm

/-- One more record is one more amount. -/
theorem Period.Tallies.record {amounts : List Nat} {p : Period} (h : p.Tallies amounts)
    (amount : UInt64) : (p.record amount).Tallies (amounts ++ [amount.toNat]) where
  count := by
    intro hlt
    rw [List.length_append, List.length_singleton] at hlt ⊢
    have hcount := h.count (by omega)
    have hone : (1 : UInt64).toNat = 1 := rfl
    show (p.count + 1).toNat = amounts.length + 1
    rw [UInt64.toNat_add, hcount, hone]
    exact Nat.mod_eq_of_lt hlt
  total := by
    show (saturatingAdd p.total amount).toNat = _
    rw [toNat_saturatingAdd, h.total, List.sum_append, List.sum_singleton]
    omega
  max := by
    show (if p.max < amount then amount else p.max).toNat = _
    rw [largestAmount_append, ← h.max]
    exact toNat_larger p.max amount

/-! ### The history of a cell -/

/-- What happens to a cell. -/
inductive CellEvent where
  | update (u : Update)
  /-- The contents were taken, and the cell began anew. -/
  | take (contents : Cell)
deriving DecidableEq

namespace Cell

/-- The contents that the cell of a meter has after a history. -/
inductive Reached (kind : Kind) : List CellEvent → Cell → Prop where
  | fresh : Reached kind [] (fresh kind)
  | update {events : List CellEvent} {c : Cell} {u : Update} (h : Reached kind events c)
      (hkind : u.kind = kind) : Reached kind (events ++ [.update u]) (c.update u)
  | take {events : List CellEvent} {c : Cell} (h : Reached kind events c) :
      Reached kind (events ++ [.take c]) c.reset

theorem Reached.kind_eq {kind : Kind} {events : List CellEvent} {c : Cell}
    (h : Reached kind events c) : c.kind = kind := by
  induction h with
  | fresh => exact kind_fresh kind
  | update _ _ ih => rw [kind_update, ih]
  | take _ ih => rw [kind_reset, ih]

/-- The period of a timer or a distribution summary. -/
def period? : Cell → Option Period
  | timer p | distributionSummary p => some p
  | _ => none

end Cell

namespace CellEvent

/-- The deltas that were added, in order. -/
def added (events : List CellEvent) : List UInt64 :=
  events.filterMap fun
    | update u => u.delta?
    | take _ => none

/-- The sums that were taken from a counter, in order. -/
def sumsTaken (events : List CellEvent) : List UInt64 :=
  events.filterMap fun
    | take (.counter n) => some n
    | _ => none

/-- The amounts that were accepted, in order. -/
def accepted (events : List CellEvent) : List Nat :=
  events.filterMap fun
    | update u => u.amount?
    | take _ => none

/-- The periods that were taken, in order. -/
def periodsTaken (events : List CellEvent) : List Period :=
  events.filterMap fun
    | take c => c.period?
    | update _ => none

/-- The amounts that were accepted, cut where the contents were taken: a list for each period that
is over, and one for the period that is not. -/
def byPeriod (events : List CellEvent) : List (List Nat) × List Nat :=
  events.foldl (fun (closed, current) e =>
    match e with
    | update u => (closed, current ++ u.amount?.toList)
    | take _ => (closed ++ [current], [])) ([], [])

theorem byPeriod_update (events : List CellEvent) (u : Update) :
    byPeriod (events ++ [update u]) =
      ((byPeriod events).1, (byPeriod events).2 ++ u.amount?.toList) := by
  simp only [byPeriod, List.foldl_append, List.foldl_cons, List.foldl_nil]

theorem byPeriod_take (events : List CellEvent) (c : Cell) :
    byPeriod (events ++ [take c]) = ((byPeriod events).1 ++ [(byPeriod events).2], []) := by
  simp only [byPeriod, List.foldl_append, List.foldl_cons, List.foldl_nil]

/-- Cutting a history into periods loses no amount, and changes no order. -/
theorem flatten_byPeriod (events : List CellEvent) :
    (byPeriod events).1.flatten ++ (byPeriod events).2 = accepted events := by
  induction events using List.reverseRecOn with
  | nil => rfl
  | append_singleton events e ih =>
    have hsnoc : accepted (events ++ [e]) = accepted events ++ accepted [e] :=
      List.filterMap_append
    rw [hsnoc, ← ih]
    cases e with
    | update u =>
      rw [byPeriod_update]
      rcases hu : u.amount? with _ | a <;> simp [accepted, hu]
    | take c =>
      rw [byPeriod_take]
      simp [accepted]

end CellEvent

namespace Cell

open CellEvent

/-! ### Counters -/

/-- What was taken from a counter and what is left in it make up what was added. -/
theorem Reached.counter {events : List CellEvent} {c : Cell} (h : Reached .counter events c) :
    ∃ n, c = counter n ∧
      ((sumsTaken events).map UInt64.toNat).sum + n.toNat ≡
        ((added events).map UInt64.toNat).sum [MOD wordCount] := by
  induction h with
  | fresh => exact ⟨0, rfl, rfl⟩
  | @update events c u h hkind ih =>
    obtain ⟨n, rfl, hsum⟩ := ih
    cases u with
    | touch k =>
      refine ⟨n, rfl, ?_⟩
      simpa [sumsTaken, added, Update.delta?] using hsum
    | add delta =>
      refine ⟨n + delta, rfl, ?_⟩
      have hword : (n + delta).toNat ≡ n.toNat + delta.toNat [MOD wordCount] := by
        rw [UInt64.toNat_add]
        exact Nat.mod_modEq _ _
      have hstep := (Nat.ModEq.add_left ((sumsTaken events).map UInt64.toNat).sum hword).trans
        (Nat.add_assoc _ _ _ ▸ hsum.add_right delta.toNat)
      simpa [sumsTaken, added, Update.delta?] using hstep
    | set x => cases hkind
    | recordTime d => cases hkind
    | recordAmount a => cases hkind
  | take h ih =>
    obtain ⟨n, rfl, hsum⟩ := ih
    refine ⟨0, rfl, ?_⟩
    simpa [sumsTaken, added] using hsum

/-! ### Timers and distribution summaries -/

/-- An accepted amount is recorded in the period, and any other update leaves it alone. -/
theorem period?_update {c : Cell} {p : Period} {u : Update} (hp : c.period? = some p)
    (hkind : u.kind = c.kind) {amounts : List Nat} (h : p.Tallies amounts) :
    ∃ q, (c.update u).period? = some q ∧ q.Tallies (amounts ++ u.amount?.toList) := by
  cases c with
  | counter n => cases hp
  | gauge x => cases hp
  | timer q =>
    cases hp
    cases u with
    | touch k => exact ⟨p, rfl, by simpa [Update.amount?] using h⟩
    | recordTime d =>
      refine ⟨p.record d.clampedNanos, rfl, ?_⟩
      simpa only [Update.amount?, Option.toList_some, toNat_clampedNanos] using
        h.record d.clampedNanos
    | add delta => cases hkind
    | set x => cases hkind
    | recordAmount a => cases hkind
  | distributionSummary q =>
    cases hp
    cases u with
    | touch k => exact ⟨p, rfl, by simpa [Update.amount?] using h⟩
    | recordAmount a =>
      by_cases ha : 0 ≤ a
      · refine ⟨p.record a.toUInt64, by simp only [update, if_pos ha, period?], ?_⟩
        have hword : a.toUInt64.toNat = a.toInt.toNat := Int64.toNat_toUInt64_of_le ha
        simpa only [Update.amount?, if_pos ha, Option.toList_some, hword] using
          h.record a.toUInt64
      · refine ⟨p, by simp only [update, if_neg ha, period?], ?_⟩
        simpa [Update.amount?, if_neg ha] using h
    | add delta => cases hkind
    | set x => cases hkind
    | recordTime d => cases hkind

/-- After a reset a period begins with nothing in it. -/
theorem period?_reset {c : Cell} {p : Period} (hp : c.period? = some p) :
    c.reset.period? = some Period.empty := by
  cases c with
  | counter n => cases hp
  | gauge x => cases hp
  | timer q => rfl
  | distributionSummary q => rfl

/-- **Every amount counts in one period.**  The periods that were taken, and the one that is not over
yet, are the accounts of the stretches into which the takings cut the accepted amounts. -/
theorem Reached.period {kind : Kind} {events : List CellEvent} {c : Cell}
    (h : Reached kind events c) (hkind : kind = .timer ∨ kind = .distributionSummary) :
    ∃ p, c.period? = some p ∧ p.Tallies (byPeriod events).2 ∧
      List.Forall₂ (fun amounts q => q.Tallies amounts) (byPeriod events).1
        (periodsTaken events) := by
  induction h with
  | fresh =>
    refine ⟨.empty, ?_, Period.tallies_empty, .nil⟩
    rcases hkind with rfl | rfl <;> rfl
  | @update events c u h hu ih =>
    obtain ⟨p, hp, htally, hclosed⟩ := ih
    obtain ⟨q, hq, htally'⟩ := period?_update hp (hu.trans h.kind_eq.symm) htally
    refine ⟨q, hq, ?_, ?_⟩
    · rw [byPeriod_update]
      exact htally'
    · rw [byPeriod_update]
      simpa [periodsTaken] using hclosed
  | @take events c h ih =>
    obtain ⟨p, hp, htally, hclosed⟩ := ih
    refine ⟨.empty, period?_reset hp, ?_, ?_⟩
    · rw [byPeriod_take]
      exact Period.tallies_empty
    · have hsnoc : periodsTaken (events ++ [.take c]) = periodsTaken events ++ [p] := by
        simp [periodsTaken, hp]
      rw [byPeriod_take, hsnoc]
      exact List.rel_append hclosed (.cons htally .nil)

end Cell

end DimensionalMetrics
