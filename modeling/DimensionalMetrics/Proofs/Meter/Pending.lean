import DimensionalMetrics.Proofs.Meter.Content
import DimensionalMetrics.Proofs.Number.Naturals

/-!
# What is pending in a cell

To take the contents of a cell is to forget every update before.  So the contents of a cell are told
by the updates since then: a counter has the sum of their deltas, a gauge the value that was set
last, and a timer or a distribution summary the totals of the amounts.
-/

namespace DimensionalMetrics

/-- An amount that is recorded is a word. -/
theorem Update.lt_of_amount? {u : Update} {a : Nat} (h : u.amount? = some a) : a < wordCount := by
  cases u with
  | recordTime d =>
    cases h
    simp only [largestWord, wordCount]
    omega
  | recordAmount b =>
    simp only [amount?] at h
    split at h
    · cases h
      have hlt := b.toInt_lt
      simp only [wordCount]
      omega
    · cases h
  | touch | add | set => cases h

/-- The value that an update sets. -/
def Update.value? : Update → Option Binary64
  | set x => some x
  | _ => none

/-! ### Totals of amounts -/

namespace Totals

/-- The totals of a period with these amounts. -/
def ofAmounts (amounts : List Nat) : Totals := amounts.foldl record zero

theorem ofAmounts_append (amounts : List Nat) (a : Nat) :
    ofAmounts (amounts ++ [a]) = (ofAmounts amounts).record a := by
  simp only [ofAmounts, List.foldl_append, List.foldl_cons, List.foldl_nil]

theorem count_ofAmounts (amounts : List Nat) :
    (ofAmounts amounts).count = amounts.length % wordCount := by
  induction amounts using List.reverseRecOn with
  | nil => rfl
  | append_singleton amounts a ih =>
    rw [ofAmounts_append, List.length_append, List.length_singleton, record, ih,
      Nat.mod_add_mod]

theorem total_ofAmounts (amounts : List Nat) :
    (ofAmounts amounts).total = min largestWord amounts.sum := by
  induction amounts using List.reverseRecOn with
  | nil => rfl
  | append_singleton amounts a ih =>
    rw [ofAmounts_append, List.sum_append, List.sum_singleton]
    show min largestWord ((ofAmounts amounts).total + a) = _
    rw [ih]
    omega

theorem count_ofAmounts_eq_zero_iff {amounts : List Nat} (hlength : amounts.length < wordCount) :
    (ofAmounts amounts).count = 0 ↔ amounts = [] := by
  rw [count_ofAmounts, Nat.mod_eq_of_lt hlength, List.length_eq_zero_iff]

theorem total_ofAmounts_eq_zero_iff (amounts : List Nat) :
    (ofAmounts amounts).total = 0 ↔ ∀ a ∈ amounts, a = 0 := by
  rw [total_ofAmounts, ← List.sum_eq_zero_iff]
  simp only [largestWord]
  omega

theorem max_ofAmounts (amounts : List Nat) : (ofAmounts amounts).max = largestAmount amounts := by
  induction amounts using List.reverseRecOn with
  | nil => rfl
  | append_singleton amounts a ih =>
    rw [ofAmounts_append, largestAmount_append, record, ih]

/-- Squares and their sums are rounded, but no rounding makes zero of a number that is not. -/
theorem totalOfSquares_ofAmounts_eq_zero_iff (amounts : List Nat) :
    (ofAmounts amounts).totalOfSquares = 0 ↔ ∀ a ∈ amounts, a = 0 := by
  induction amounts using List.reverseRecOn with
  | nil =>
    have hzero : (ofAmounts []).totalOfSquares = 0 := rfl
    simp [hzero]
  | append_singleton amounts a ih =>
    rw [ofAmounts_append, record]
    simp only [Binary64.roundNat_eq_zero_iff, Nat.add_eq_zero_iff, mul_self_eq_zero, ih,
      List.forall_mem_append, List.forall_mem_singleton]

end Totals

/-! ### Contents of updates -/

namespace Content

/-- What a meter has in it after some updates, from the beginning. -/
def ofUpdates (kind : Kind) (us : List Update) : Content := us.foldl update (fresh kind)

theorem ofUpdates_append (kind : Kind) (us : List Update) (u : Update) :
    ofUpdates kind (us ++ [u]) = (ofUpdates kind us).update u := by
  simp only [ofUpdates, List.foldl_append, List.foldl_cons, List.foldl_nil]

theorem ofUpdates_counter (us : List Update) : ofUpdates .counter us =
    counter (((us.filterMap Update.delta?).map UInt64.toNat).sum % wordCount) := by
  induction us using List.reverseRecOn with
  | nil => rfl
  | append_singleton us u ih =>
    rw [ofUpdates_append, ih, List.filterMap_append]
    cases u with
    | add delta => simp [update, Update.delta?]
    | touch | set | recordTime | recordAmount => simp [update, Update.delta?, List.filterMap_cons]

theorem ofUpdates_gauge (us : List Update) : ofUpdates .gauge us =
    gauge ((us.filterMap Update.value?).getLast?.bind Binary64.number?) := by
  induction us using List.reverseRecOn with
  | nil => rfl
  | append_singleton us u ih =>
    rw [ofUpdates_append, ih, List.filterMap_append]
    cases u with
    | set x => simp [update, Update.value?]
    | touch | add | recordTime | recordAmount => simp [update, Update.value?, List.filterMap_cons]

theorem ofUpdates_timer {us : List Update} (hkind : ∀ u ∈ us, u.kind = .timer) :
    ofUpdates .timer us = timer (.ofAmounts (us.filterMap Update.amount?)) := by
  induction us using List.reverseRecOn with
  | nil => rfl
  | append_singleton us u ih =>
    rw [List.forall_mem_append, List.forall_mem_singleton] at hkind
    rw [ofUpdates_append, ih hkind.1, List.filterMap_append]
    cases u with
    | touch k => simp [update, Update.amount?, List.filterMap_cons]
    | recordTime d => simp [update, Update.amount?, Totals.ofAmounts_append]
    | add | set | recordAmount => cases hkind.2

theorem ofUpdates_distributionSummary {us : List Update}
    (hkind : ∀ u ∈ us, u.kind = .distributionSummary) : ofUpdates .distributionSummary us =
      distributionSummary (.ofAmounts (us.filterMap Update.amount?)) := by
  induction us using List.reverseRecOn with
  | nil => rfl
  | append_singleton us u ih =>
    rw [List.forall_mem_append, List.forall_mem_singleton] at hkind
    rw [ofUpdates_append, ih hkind.1, List.filterMap_append]
    cases u with
    | touch k => simp [update, Update.amount?, List.filterMap_cons]
    | recordAmount a =>
      by_cases ha : 0 ≤ a
      · simp [update, Update.amount?, ha, Totals.ofAmounts_append]
      · simp [update, Update.amount?, ha]
    | add | set | recordTime => cases hkind.2

end Content

/-! ### Updates since the last taking -/

namespace CellEvent

/-- The updates since the contents were last taken. -/
def pending (events : List CellEvent) : List Update :=
  events.foldl (fun us e =>
    match e with
    | update u => us ++ [u]
    | take _ => []) []

theorem pending_update (events : List CellEvent) (u : Update) :
    pending (events ++ [update u]) = pending events ++ [u] := by
  simp only [pending, List.foldl_append, List.foldl_cons, List.foldl_nil]

theorem pending_take (events : List CellEvent) (c : Cell) : pending (events ++ [take c]) = [] := by
  simp only [pending, List.foldl_append, List.foldl_cons, List.foldl_nil]

end CellEvent

namespace Cell

open CellEvent

theorem Reached.kind_of_mem_pending {kind : Kind} {events : List CellEvent} {c : Cell}
    (h : Reached kind events c) : ∀ u ∈ pending events, u.kind = kind := by
  induction h with
  | fresh =>
    intro u hu
    exact absurd hu List.not_mem_nil
  | update _ hkind ih =>
    rw [pending_update, List.forall_mem_append, List.forall_mem_singleton]
    exact ⟨ih, hkind⟩
  | take =>
    rw [pending_take]
    intro u hu
    exact absurd hu List.not_mem_nil

/-- **The pending updates make up the contents of a cell.** -/
theorem Reached.content_eq {kind : Kind} {events : List CellEvent} {c : Cell}
    (h : Reached kind events c) : c.content = .ofUpdates kind (pending events) := by
  induction h with
  | fresh => exact content_fresh kind
  | update _ _ ih => rw [content_update, ih, pending_update, Content.ofUpdates_append]
  | @take events c h ih =>
    rw [content_reset, Content.reset, kind_content, h.kind_eq, pending_take]
    rfl

end Cell

end DimensionalMetrics
