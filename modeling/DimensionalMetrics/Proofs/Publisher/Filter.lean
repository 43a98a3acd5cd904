import DimensionalMetrics.Proofs.Meter.Squares
import DimensionalMetrics.Proofs.Registry.Conservation
import DimensionalMetrics.Wire.Record

/-!
# What is not worth sending

The filter looks at a value only: it must be finite, and a sum must be greater than zero.  That is
enough to tell whether anything happened.  The values of counters, timers and distribution summaries
are natural numbers in double precision, far below infinity, and none that is not zero is rounded to
zero.  So a sum is left out just when nothing but zeros has been added to it since its meter was
measured last; the sum of a counter starts over at `2 ^ 64`, and what it comes to then is all there is
to tell.  Only a gauge can have a value that is not finite, because it was set to that.
-/

namespace DimensionalMetrics

/-- Nothing is pending that would add to a sum of a meter: what was added to a counter comes to zero, a
timer or a distribution summary has no record, or none but of zero. -/
def Statistic.Idle (kind : Kind) (us : List Update) (statistic : Statistic) : Prop :=
  match kind, statistic with
  | .counter, _ => ((us.filterMap Update.delta?).map UInt64.toNat).sum % wordCount = 0
  | _, .count => us.filterMap Update.amount? = []
  | _, _ => ∀ a ∈ us.filterMap Update.amount?, a = 0

/-! ### The filter -/

namespace Measurement

theorem rejected_ofNat_iff {x : Measurement} {n : Nat} (hlt : n < 2 ^ 256)
    (hvalue : x.value = .ofNat n) :
    x.isWorthSending = false ↔ x.statistic.combination = .sum ∧ n = 0 := by
  have hpositive : (Binary64.ofNat n).isPositive = false ↔ n = 0 := by
    rw [← Bool.not_eq_true, Binary64.isPositive_ofNat hlt, not_not]
  rw [isWorthSending, hvalue, Binary64.isFinite_ofNat hlt, Bool.true_and, Bool.or_eq_false_iff,
    hpositive, decide_eq_false_iff_not]
  cases x.statistic.combination with
  | sum => simp
  | maximum => simp

theorem rejected_gauge_iff {x : Measurement} (hgauge : x.statistic = .gauge) :
    x.isWorthSending = false ↔ x.value.isFinite = false := by
  have hmaximum : x.statistic.combination = .maximum := by
    rw [hgauge]
    rfl
  rw [isWorthSending, decide_eq_true hmaximum, Bool.true_or, Bool.and_true]

end Measurement

/-! ### What a value says about what is pending -/

/-- A value is a natural number, which as a sum is zero only if nothing but zeros is pending. -/
structure Reports (kind : Kind) (us : List Update) (v : Statistic × Binary64) (n : Nat) : Prop where
  small : n < 2 ^ 256
  value : v.2 = .ofNat n
  idle : (us.filterMap Update.amount?).length < wordCount → v.1.combination = .sum →
    (n = 0 ↔ v.1.Idle kind us)
  squares : v.1 = .totalOfSquares → v.2 = .sumOfSquares (us.filterMap Update.amount?)

theorem Period.exists_reports {p : Period} {kind : Kind} {us : List Update} {total : Statistic}
    (hp : p.totals = .ofAmounts (us.filterMap Update.amount?))
    (hkind : kind = .timer ∨ kind = .distributionSummary)
    (htotal : total = .totalTime ∨ total = .totalAmount)
    {v : Statistic × Binary64} (hv : v ∈ p.values total) : ∃ n, Reports kind us v n := by
  have hword : ∀ w : UInt64, w.toNat < 2 ^ 256 := fun w => w.toNat_lt.trans (by decide)
  have hexact : Totals.Exact (us.filterMap Update.amount?) p.totals.totalOfSquares := by
    rw [hp]
    exact Totals.exact_ofUpdates us
  simp only [values, List.mem_cons, List.not_mem_nil, or_false] at hv
  rcases hv with rfl | rfl | rfl | rfl
  case inl =>
    refine ⟨p.totals.count, hword p.count, rfl, ?_, ?_⟩
    · intro hlength _
      rw [hp, Totals.count_ofAmounts_eq_zero_iff hlength]
      rcases hkind with rfl | rfl
      · rfl
      · rfl
    · intro h
      cases h
  case inr.inl =>
    refine ⟨p.totals.total, hword p.total, rfl, ?_, ?_⟩
    · intro _ _
      rw [hp, Totals.total_ofAmounts_eq_zero_iff]
      rcases hkind with rfl | rfl <;> rcases htotal with rfl | rfl <;> rfl
    · rintro rfl
      rcases htotal with h | h
      · cases h
      · cases h
  case inr.inr.inl =>
    refine ⟨p.totals.totalOfSquares, hexact.le.trans_lt (by decide), rfl, ?_, ?_⟩
    · intro _ _
      rw [hp, Totals.totalOfSquares_ofAmounts_eq_zero_iff]
      rcases hkind with rfl | rfl
      · rfl
      · rfl
    · intro _
      exact hexact.value
  case inr.inr.inr =>
    refine ⟨p.totals.max, hword p.max, rfl, ?_, ?_⟩
    · intro _ hsum
      cases hsum
    · intro h
      cases h

namespace Cell

open CellEvent

variable {kind : Kind} {events : List CellEvent} {c : Cell}

/-- Whatever is not a gauge reports natural numbers. -/
theorem Reached.exists_reports (h : c.Reached kind events) (hkind : kind ≠ .gauge)
    {v : Statistic × Binary64} (hv : v ∈ c.values) : ∃ n, Reports kind (pending events) v n := by
  have hpending := h.kind_of_mem_pending
  have hcontent := h.content_eq
  obtain rfl := h.kind_eq
  cases c with
  | counter n =>
    rw [values, List.mem_singleton] at hv
    subst hv
    have hsum := Content.counter.inj (hcontent.trans (Content.ofUpdates_counter _))
    refine ⟨n.toNat, ?_⟩
    constructor
    case small => exact n.toNat_lt.trans (by decide)
    case value => rfl
    case idle =>
      intro _ _
      rw [hsum]
      rfl
    case squares =>
      intro h
      cases h
  | gauge x => exact absurd rfl hkind
  | timer p =>
    have htotals := Content.timer.inj (hcontent.trans (Content.ofUpdates_timer hpending))
    exact Period.exists_reports htotals (.inl rfl) (.inl rfl) hv
  | distributionSummary p =>
    have htotals := Content.distributionSummary.inj
      (hcontent.trans (Content.ofUpdates_distributionSummary hpending))
    exact Period.exists_reports htotals (.inr rfl) (.inr rfl) hv

/-- A gauge reports the value that was set last, if that is a number. -/
theorem Reached.level (h : c.Reached .gauge events) {v : Statistic × Binary64} (hv : v ∈ c.values) :
    v.1 = .gauge ∧ ((pending events).filterMap Update.value?).getLast? = some v.2 ∧
      v.2.isNaN = false := by
  have hcontent := h.content_eq.trans (Content.ofUpdates_gauge _)
  rw [← values_content, hcontent] at hv
  simp only [Content.values, List.mem_map, Option.mem_toList] at hv
  obtain ⟨x, hx, rfl⟩ := hv
  obtain ⟨y, hy, hnumber⟩ := Option.bind_eq_some_iff.mp hx
  rw [Binary64.number?] at hnumber
  split at hnumber
  · cases hnumber
  · rename_i hnan
    cases hnumber
    exact ⟨rfl, hy, Bool.eq_false_iff.mpr hnan⟩

end Cell

/-! ### Every run -/

/-- What the filter makes of a value of a meter in which these updates are pending. -/
structure Judged (kind : Kind) (us : List Update) (x : Measurement) : Prop where
  /-- A sum is rejected if nothing but zeros was added to it, and a gauge if it was set to an
  infinity. -/
  rejected_iff : (us.filterMap Update.amount?).length < wordCount →
    (x.isWorthSending = false ↔
      (x.statistic.combination = .sum ∧ x.statistic.Idle kind us) ∨
      (kind = .gauge ∧ ∃ level, (us.filterMap Update.value?).getLast? = some level ∧
        level.isFinite = false ∧ level.isNaN = false))
  /-- Only gauges report anything but natural numbers in double precision. -/
  tame : kind ≠ .gauge →
    x.value.isFinite = true ∧ x.value.isNaN = false ∧ x.value.isNegative = false
  squares : kind ≠ .gauge → x.statistic = .totalOfSquares →
    x.value = .sumOfSquares (us.filterMap Update.amount?)

theorem Meter.judged {m : Meter} {events : List CellEvent} (h : m.cell.Reached m.kind events)
    {x : Measurement} (hx : x ∈ m.measurements) : Judged m.kind (CellEvent.pending events) x := by
  obtain ⟨v, hv, rfl⟩ := List.mem_map.mp hx
  by_cases hkind : m.kind = .gauge
  · rw [hkind] at h ⊢
    obtain ⟨hgauge, hlast, hnan⟩ := h.level hv
    constructor
    case rejected_iff =>
      intro _
      have hmaximum : ¬ v.1.combination = .sum := by
        rw [hgauge]
        decide
      rw [Measurement.rejected_gauge_iff hgauge]
      constructor
      · intro hfinite
        exact .inr ⟨rfl, v.2, hlast, hfinite, hnan⟩
      · rintro (⟨hsum, -⟩ | ⟨-, level, hlevel, hfinite, -⟩)
        · exact absurd hsum hmaximum
        · obtain rfl := Option.some.inj (hlast.symm.trans hlevel)
          exact hfinite
    case tame => exact fun hne => absurd rfl hne
    case squares => exact fun hne => absurd rfl hne
  · obtain ⟨n, hn⟩ := h.exists_reports hkind hv
    constructor
    case rejected_iff =>
      intro hlength
      rw [Measurement.rejected_ofNat_iff hn.small hn.value]
      constructor
      · rintro ⟨hsum, hzero⟩
        exact .inl ⟨hsum, (hn.idle hlength hsum).mp hzero⟩
      · rintro (⟨hsum, hidle⟩ | ⟨hgauge, -⟩)
        · exact ⟨hsum, (hn.idle hlength hsum).mpr hidle⟩
        · exact absurd hgauge hkind
    case tame =>
      intro _
      show v.2.isFinite = true ∧ v.2.isNaN = false ∧ v.2.isNegative = false
      rw [hn.value]
      have hfinite := Binary64.isFinite_ofNat hn.small
      exact ⟨hfinite, Binary64.isNaN_of_isFinite hfinite, Binary64.isNegative_ofNat hn.small⟩
    case squares => exact fun _ => hn.squares

/-- **The filter drops nothing that happened.**  Whatever the callers do, and whichever of them
measures a meter, a value is not worth sending just when it is a sum to which nothing was added since
the meter was measured before, or when the meter is a gauge that was last set to an infinity.  All
other meters report finite numbers that are not negative, whatever was recorded and however often.
The same holds of what a sweep would find now, in whatever order. -/
theorem filter_drops_only_idle {config : Config} {usable : config.Valid} {deeds : List Deed}
    {s : Shared} (hrun : Shared.Run (Shared.new config usable) deeds s) :
    (∀ before m reported after, deeds = before ++ .measured m reported :: after → ∀ x ∈ reported,
      Judged m.kind (CellEvent.pending (Deed.history m.id before)) x) ∧
    ∀ o : s.registry.Order, ∀ x ∈ (s.registry.sweepAlong o).2, ∃ m ∈ s.registry.meters,
      x ∈ m.measurements ∧ Judged m.kind (CellEvent.pending (Deed.history m.id deeds)) x := by
  constructor
  · intro before m reported after hdeeds x hx
    obtain ⟨s₀, hrun₀, hm, rfl⟩ := hrun.before_measured hdeeds
    obtain ⟨i, hi⟩ := List.mem_iff_getElem?.mp hm
    exact Meter.judged (hrun₀.follows.reached hi) hx
  · intro o x hx
    rw [Registry.sweepAlong_eq] at hx
    obtain ⟨m, hvisited, hmeasured⟩ := List.mem_flatMap.mp hx
    have hm := o.meters_perm.mem_iff.mp hvisited
    obtain ⟨i, hi⟩ := List.mem_iff_getElem?.mp hm
    exact ⟨m, hm, hmeasured, Meter.judged (hrun.follows.reached hi) hmeasured⟩

/-- A timer that has recorded no time at all, once: the record counts, and there is nothing else to
send but the largest time. -/
theorem filter_drops_time_that_did_not_pass :
    ∃ deeds s before m reported, Shared.Run (Shared.new {} (by decide)) deeds s ∧
      deeds = before ++ [.measured m reported] ∧
      CellEvent.pending (Deed.history m.id before) = [.recordTime .zero] ∧
      reported.map (·.statistic) = [.count, .totalTime, .totalOfSquares, .max] ∧
      ∀ x ∈ reported, Judged .timer [.recordTime .zero] x ∧
        (x.isWorthSending = false ↔ x.statistic ∈ [.totalTime, .totalOfSquares]) := by
  have usable : Config.Valid {} := by decide
  let id := Id.make "latency" []
  let r (c : Cell) : Registry := ⟨{}, usable, [⟨id, c⟩]⟩
  have hmissed : Shared.Run (.new {} usable) _ ⟨⟨{}, usable, []⟩, [], [(id, .timer)], []⟩ :=
    .step .start (.miss .timer rfl)
  have hentered : Shared.Run _ _ ⟨r (.timer .empty), [⟨0, .timer⟩], [], []⟩ :=
    .step hmissed (.enter (show _ = [] ++ (id, .timer) :: [] from rfl))
  have hrecorded : Shared.Run _ _
      ⟨r (.timer (Period.empty.record Duration.zero.clampedNanos)), [⟨0, .timer⟩], [], [[0]]⟩ :=
    .step (.step hentered (.update (u := .recordTime .zero) List.mem_cons_self rfl rfl))
      (.begin (by simp [r, Registry.modify]))
  have htaken := Shared.Run.step hrecorded (.measure (show _ = [] ++ [0] :: [] from rfl) rfl)
  have hpending : ∀ answer, CellEvent.pending (Deed.history id [.missed id .timer,
      .answered id .timer answer, .updated id (.recordTime .zero), .began [0]]) =
      [.recordTime .zero] := by
    intro answer
    simp [Deed.history, Deed.cellEvent?, CellEvent.pending, List.filterMap_cons]
  have hstatistics : (Meter.measurements ⟨id, .timer
      (Period.empty.record Duration.zero.clampedNanos)⟩).map (·.statistic) =
      [.count, .totalTime, .totalOfSquares, .max] := rfl
  refine ⟨_, _, _, _, _, htaken, rfl, hpending _, hstatistics, fun x hx => ?_⟩
  have hjudged : Judged .timer [.recordTime .zero] x :=
    hpending _ ▸ (filter_drops_only_idle htaken).1 _ _ _ [] rfl x hx
  have hmem : x.statistic ∈ [.count, .totalTime, .totalOfSquares, .max] := by
    rw [← hstatistics]
    exact List.mem_map.mpr ⟨x, hx, rfl⟩
  have hamounts : [Update.recordTime .zero].filterMap Update.amount? = [0] := by decide
  refine ⟨hjudged, (hjudged.rejected_iff (by decide)).trans ?_⟩
  simp only [List.mem_cons, List.not_mem_nil, or_false] at hmem
  rcases hmem with hx | hx | hx | hx <;>
    simp [hx, Statistic.Idle, Statistic.combination, hamounts]

end DimensionalMetrics
