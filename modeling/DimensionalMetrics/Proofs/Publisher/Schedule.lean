import DimensionalMetrics.Publisher.Ticker
import Mathlib.Data.List.Induction

/-!
# The schedule of ticks

A task waits for a tick, works for a while, and waits for the next one.  When its ticks start is
settled by when it began, by the time between ticks, and by how long it worked each time: a `Pause`
is what is left of all that while the task waits.  `OnSchedule` is what this comes to.  Ticks never
come early, and late ones put off those after them by no more than they have to.
-/

namespace DimensionalMetrics

/-! ### Instants of timers -/

theorem ceilMillis_lt (instant : Nat) : ceilMillis instant < instant + millisecond := by
  simp only [ceilMillis, millisecond]
  omega

theorem ceilMillis_add_mul (instant n : Nat) :
    ceilMillis (instant + n * millisecond) = ceilMillis instant + n * millisecond := by
  simp only [ceilMillis, millisecond]
  omega

theorem ceilMillis_of_dvd {instant : Nat} (h : millisecond ∣ instant) :
    ceilMillis instant = instant := by
  obtain ⟨n, rfl⟩ := h
  rw [Nat.mul_comm, ceilMillis_mul]

namespace Ticker

/-- The ticker after a tick that is handled at an instant, if the clock had no end. -/
def after (t : Ticker) (now : Nat) : Ticker :=
  { t with deadline := (if now ≤ t.deadline + tolerance then t.deadline else now) + t.period }

theorem eq_of_start? {now : Nat} {frequency : Duration} {t : Ticker}
    (h : start? now frequency = some t) : t = ⟨now + frequency.nanos, frequency.nanos⟩ := by
  obtain ⟨deadline, hdeadline, rfl⟩ := Option.map_eq_some_iff.mp h
  rw [later?, Option.ite_none_right_eq_some, Option.some.injEq] at hdeadline
  rw [hdeadline.2]

theorem eq_after_of_next? {t t' : Ticker} {now : Nat} (h : t.next? now = some t') :
    t' = t.after now := by
  obtain ⟨deadline, hdeadline, rfl⟩ := Option.map_eq_some_iff.mp h
  rw [later?, Option.ite_none_right_eq_some, Option.some.injEq] at hdeadline
  rw [after, hdeadline.2]

variable {t : Ticker} {now : Nat}

theorem after_deadline_of_le (h : now ≤ t.deadline + tolerance) :
    (t.after now).deadline = t.deadline + t.period := by
  simp only [after, if_pos h]

theorem after_deadline_of_lt (h : t.deadline + tolerance < now) :
    (t.after now).deadline = now + t.period := by
  simp only [after, if_neg (Nat.not_le_of_lt h)]

theorem deadline_le_due (t : Ticker) : t.deadline ≤ t.due := le_ceilMillis t.deadline

end Ticker

/-! ### Pauses -/

/-- A task that waits for a tick: its ticker, and since when it waits. -/
structure Pause where
  ticker : Ticker
  since : Nat

namespace Pause

/-- The pause with which a task begins. -/
def first (start frequency : Nat) : Pause := ⟨⟨start + frequency, frequency⟩, start⟩

/-- The instant of the tick for which a task waits.  A tick that is overdue is handled at once. -/
def tick (p : Pause) : Nat := max p.since p.ticker.due

/-- The pause after the next one, if the work at the tick between them takes so long. -/
def next (p : Pause) (duration : Nat) : Pause := ⟨p.ticker.after p.tick, p.tick + duration⟩

def afterAll (p : Pause) (durations : List Nat) : Pause := durations.foldl next p

/-- The instants at which ticks start that take so long each. -/
def ticks (p : Pause) : List Nat → List Nat
  | [] => []
  | d :: ds => p.tick :: (p.next d).ticks ds

/-- The instants at which the work of these ticks is done. -/
def rests (p : Pause) : List Nat → List Nat
  | [] => []
  | d :: ds => (p.tick + d) :: (p.next d).rests ds

theorem afterAll_concat (p : Pause) (ds : List Nat) (d : Nat) :
    p.afterAll (ds ++ [d]) = (p.afterAll ds).next d := by
  rw [afterAll, List.foldl_append, afterAll, List.foldl_cons, List.foldl_nil]

theorem ticks_concat (p : Pause) (ds : List Nat) (d : Nat) :
    p.ticks (ds ++ [d]) = p.ticks ds ++ [(p.afterAll ds).tick] := by
  induction ds generalizing p with
  | nil => rfl
  | cons e ds ih => exact congrArg (p.tick :: ·) (ih (p.next e))

theorem rests_concat (p : Pause) (ds : List Nat) (d : Nat) :
    p.rests (ds ++ [d]) = p.rests ds ++ [(p.afterAll ds).tick + d] := by
  induction ds generalizing p with
  | nil => rfl
  | cons e ds ih => exact congrArg ((p.tick + e) :: ·) (ih (p.next e))

theorem length_ticks (p : Pause) (ds : List Nat) : (p.ticks ds).length = ds.length := by
  induction ds generalizing p with
  | nil => rfl
  | cons d ds ih => rw [ticks, List.length_cons, List.length_cons, ih]

theorem getElem?_ticks (p : Pause) {ds : List Nat} {k : Nat} (hk : k < ds.length) :
    (p.ticks ds)[k]? = some (p.afterAll (ds.take k)).tick := by
  induction ds generalizing p k with
  | nil => cases hk
  | cons d ds ih =>
    cases k with
    | zero => rfl
    | succ k => exact ih (p.next d) (Nat.lt_of_succ_lt_succ hk)

theorem getElem?_rests (p : Pause) {ds : List Nat} {k d : Nat} (hd : ds[k]? = some d) :
    (p.rests ds)[k]? = some ((p.afterAll (ds.take k)).tick + d) := by
  induction ds generalizing p k with
  | nil => cases hd
  | cons e ds ih =>
    cases k with
    | zero =>
      obtain rfl : e = d := Option.some.inj hd
      rfl
    | succ k => exact ih (p.next e) hd

/-- A tick is one of those that were counted. -/
theorem exists_of_getElem?_ticks {p : Pause} {ds : List Nat} {k a : Nat}
    (h : (p.ticks ds)[k]? = some a) : k < ds.length ∧ a = (p.afterAll (ds.take k)).tick := by
  obtain ⟨hk, -⟩ := List.getElem?_eq_some_iff.mp h
  rw [length_ticks] at hk
  rw [p.getElem?_ticks hk, Option.some.injEq] at h
  exact ⟨hk, h.symm⟩

/-! ### What holds after any work -/

theorem since_le_tick (p : Pause) : p.since ≤ p.tick := Nat.le_max_left _ _

theorem due_le_tick (p : Pause) : p.ticker.due ≤ p.tick := Nat.le_max_right _ _

theorem deadline_le_tick (p : Pause) : p.ticker.deadline ≤ p.tick :=
  Nat.le_trans p.ticker.deadline_le_due p.due_le_tick

theorem period_afterAll (p : Pause) (ds : List Nat) :
    (p.afterAll ds).ticker.period = p.ticker.period := by
  induction ds using List.reverseRecOn with
  | nil => rfl
  | append_singleton ds d ih =>
    rw [afterAll_concat]
    exact ih

/-- A tick puts the next one off by a period at least. -/
theorem add_period_le_deadline (p : Pause) (d : Nat) :
    p.ticker.deadline + p.ticker.period ≤ (p.next d).ticker.deadline := by
  rcases Nat.lt_or_ge (p.ticker.deadline + Ticker.tolerance) p.tick with hlate | hpunctual
  · rw [next, Ticker.after_deadline_of_lt hlate]
    exact Nat.add_le_add_right p.deadline_le_tick _
  · exact Nat.le_of_eq (Ticker.after_deadline_of_le hpunctual).symm

/-- Two ticks lie a period apart, up to the tolerance. -/
theorem tick_add_period_le (p : Pause) (d : Nat) :
    p.tick + p.ticker.period ≤ (p.next d).ticker.deadline + Ticker.tolerance := by
  rcases Nat.lt_or_ge (p.ticker.deadline + Ticker.tolerance) p.tick with hlate | hpunctual
  · rw [next, Ticker.after_deadline_of_lt hlate]
    exact Nat.le_add_right _ _
  · rw [next, Ticker.after_deadline_of_le hpunctual]
    omega

theorem deadline_afterAll (start frequency : Nat) (ds : List Nat) :
    start + (ds.length + 1) * frequency ≤ ((first start frequency).afterAll ds).ticker.deadline := by
  induction ds using List.reverseRecOn with
  | nil =>
    show start + (0 + 1) * frequency ≤ start + frequency
    omega
  | append_singleton ds d ih =>
    have hnext := ((first start frequency).afterAll ds).add_period_le_deadline d
    have hperiod : ((first start frequency).afterAll ds).ticker.period = frequency :=
      period_afterAll _ ds
    rw [hperiod] at hnext
    rw [afterAll_concat, List.length_append, List.length_singleton, Nat.succ_mul]
    omega

/-! ### Work that is done in time -/

/-- As long as no work takes longer than a period, there is no drift. -/
theorem deadline_of_short (start : Nat) {n : Nat} {ds : List Nat}
    (h : ∀ d ∈ ds, d ≤ n * millisecond) :
    ((first start (n * millisecond)).afterAll ds).ticker.deadline =
        start + (ds.length + 1) * (n * millisecond) ∧
      ((first start (n * millisecond)).afterAll ds).since ≤
        ((first start (n * millisecond)).afterAll ds).ticker.due := by
  induction ds using List.reverseRecOn with
  | nil =>
    have hdue : start + n * millisecond ≤ (first start (n * millisecond)).ticker.due :=
      (first start (n * millisecond)).ticker.deadline_le_due
    refine ⟨?_, Nat.le_trans (Nat.le_add_right _ _) hdue⟩
    show start + n * millisecond = start + (0 + 1) * (n * millisecond)
    rw [Nat.zero_add, Nat.one_mul]
  | append_singleton ds d ih =>
    obtain ⟨hdeadline, hsince⟩ := ih fun e he => h e (List.mem_append_left _ he)
    have hd : d ≤ n * millisecond := h d (by simp)
    generalize hp : (first start (n * millisecond)).afterAll ds = p at hdeadline hsince
    have hperiod : p.ticker.period = n * millisecond := by
      rw [← hp]
      exact period_afterAll _ ds
    -- The tick is handled when it is due, which is within a millisecond of its deadline.
    have htick : p.tick = ceilMillis p.ticker.deadline := Nat.max_eq_right hsince
    have hpunctual : p.tick ≤ p.ticker.deadline + Ticker.tolerance := by
      have hlt := ceilMillis_lt p.ticker.deadline
      rw [htick, Ticker.tolerance]
      omega
    have hnext : (p.next d).ticker.deadline = p.ticker.deadline + n * millisecond := by
      rw [next, Ticker.after_deadline_of_le hpunctual, hperiod]
    rw [afterAll_concat, hp, Ticker.due, hnext, ceilMillis_add_mul]
    constructor
    · rw [hdeadline, List.length_append, List.length_singleton, Nat.succ_mul (ds.length + 1),
        Nat.add_assoc]
    · show p.tick + d ≤ _
      rw [htick]
      exact Nat.add_le_add_left hd _

theorem tick_of_short (start : Nat) {n : Nat} {ds : List Nat} (h : ∀ d ∈ ds, d ≤ n * millisecond) :
    ((first start (n * millisecond)).afterAll ds).tick =
      ceilMillis (start + (ds.length + 1) * (n * millisecond)) := by
  obtain ⟨hdeadline, hsince⟩ := deadline_of_short start h
  rw [tick, Nat.max_eq_right hsince, Ticker.due, hdeadline]

end Pause

/-! ### Schedules -/

/-- How the ticks of a task lie that begins at an instant, and when the work of each is done.  The
first tick has position 0. -/
structure OnSchedule (start frequency : Nat) (ticks rests : List Nat) : Prop where
  /-- A tick starts when the work of the tick before it is done, or later. -/
  apart : ∀ k a b, ticks[k]? = some a → ticks[k + 1]? = some b →
    ∃ r, rests[k]? = some r ∧ a ≤ r ∧ r ≤ b
  notEarly : ∀ k a, ticks[k]? = some a → start + (k + 1) * frequency ≤ a
  count : ∀ instant, (ticks.filter (· ≤ instant)).length ≤ (instant - start) / frequency
  /-- If no work before took longer than a period, a tick starts when it was meant to; timers go off
  at whole milliseconds. -/
  punctual : ∀ k a, ticks[k]? = some a →
    (∀ j < k, ∀ b r, ticks[j]? = some b → rests[j]? = some r → r ≤ b + frequency) →
    a = ceilMillis (start + (k + 1) * frequency) ∧
      (millisecond ∣ start → a = start + (k + 1) * frequency)
  spaced : ∀ k a b, ticks[k]? = some a → ticks[k + 1]? = some b →
    a + frequency ≤ b + Ticker.tolerance

/-- Ticks that do not come early are not too many. -/
theorem length_filter_le_of_notEarly {start frequency : Nat} {ticks : List Nat}
    (hpositive : 0 < frequency)
    (hnotEarly : ∀ k a, ticks[k]? = some a → start + (k + 1) * frequency ≤ a) (instant : Nat) :
    (ticks.filter (· ≤ instant)).length ≤ (instant - start) / frequency := by
  induction ticks using List.reverseRecOn with
  | nil => exact Nat.zero_le _
  | append_singleton ticks a ih =>
    have hlast : start + (ticks.length + 1) * frequency ≤ a :=
      hnotEarly ticks.length a List.getElem?_concat_length
    rw [List.filter_append, List.length_append]
    by_cases ha : a ≤ instant
    · -- The last tick alone shows that there is time for all of them.
      have hall : (ticks.filter (· ≤ instant)).length + 1 ≤ (instant - start) / frequency := by
        rw [Nat.le_div_iff_mul_le hpositive]
        have hmul : ((ticks.filter (· ≤ instant)).length + 1) * frequency ≤
            (ticks.length + 1) * frequency :=
          Nat.mul_le_mul_right frequency (Nat.succ_le_succ (List.length_filter_le _ ticks))
        omega
      simpa [ha] using hall
    · have hrest := ih fun k b hb => hnotEarly k b (by
        obtain ⟨hk, -⟩ := List.getElem?_eq_some_iff.mp hb
        rw [List.getElem?_append_left hk, hb])
      simpa [ha] using hrest

namespace Pause

variable {p : Pause} {ds last : List Nat}

theorem afterAll_take_succ (p : Pause) {k : Nat} (hk : k < ds.length) :
    p.afterAll (ds.take (k + 1)) = (p.afterAll (ds.take k)).next ds[k] := by
  rw [← List.take_append_getElem hk, afterAll_concat]

/-- The ticks of some work, of which the last may still go on. -/
theorem exists_of_getElem?_ticks_append (hlast : last.length ≤ 1) {k a : Nat}
    (h : (p.ticks (ds ++ last))[k]? = some a) :
    k ≤ ds.length ∧ a = (p.afterAll (ds.take k)).tick := by
  obtain ⟨hk, rfl⟩ := exists_of_getElem?_ticks h
  rw [List.length_append] at hk
  have hle : k ≤ ds.length := by omega
  rw [List.take_append_of_le_length hle]
  exact ⟨hle, rfl⟩

theorem apart_of_getElem?_ticks (hlast : last.length ≤ 1) {k a b : Nat}
    (ha : (p.ticks (ds ++ last))[k]? = some a) (hb : (p.ticks (ds ++ last))[k + 1]? = some b) :
    ∃ r, (p.rests ds)[k]? = some r ∧ a ≤ r ∧ r ≤ b := by
  obtain ⟨-, rfl⟩ := exists_of_getElem?_ticks_append hlast ha
  obtain ⟨hk, rfl⟩ := exists_of_getElem?_ticks_append hlast hb
  refine ⟨_, p.getElem?_rests (List.getElem?_eq_getElem hk), Nat.le_add_right _ _, ?_⟩
  rw [p.afterAll_take_succ hk]
  exact since_le_tick (next _ _)

theorem spaced_of_getElem?_ticks (hlast : last.length ≤ 1) {k a b : Nat}
    (ha : (p.ticks (ds ++ last))[k]? = some a) (hb : (p.ticks (ds ++ last))[k + 1]? = some b) :
    a + p.ticker.period ≤ b + Ticker.tolerance := by
  obtain ⟨-, rfl⟩ := exists_of_getElem?_ticks_append hlast ha
  obtain ⟨hk, rfl⟩ := exists_of_getElem?_ticks_append hlast hb
  have hspaced := (p.afterAll (ds.take k)).tick_add_period_le ds[k]
  rw [period_afterAll] at hspaced
  rw [p.afterAll_take_succ hk]
  exact Nat.le_trans hspaced (Nat.add_le_add_right (deadline_le_tick _) _)

theorem notEarly_of_getElem?_ticks {start frequency : Nat} (hlast : last.length ≤ 1) {k a : Nat}
    (ha : ((first start frequency).ticks (ds ++ last))[k]? = some a) :
    start + (k + 1) * frequency ≤ a := by
  obtain ⟨hk, rfl⟩ := exists_of_getElem?_ticks_append hlast ha
  have hdeadline := deadline_afterAll start frequency (ds.take k)
  rw [List.length_take_of_le hk] at hdeadline
  exact Nat.le_trans hdeadline (deadline_le_tick _)

/-- What is told of durations by when work starts and when it is done. -/
theorem durations_le {frequency k : Nat} (h : ∀ j < k, ∀ b r, (p.ticks (ds ++ last))[j]? = some b →
      (p.rests ds)[j]? = some r → r ≤ b + frequency) : ∀ d ∈ ds.take k, d ≤ frequency := by
  intro d hd
  obtain ⟨j, hj, rfl⟩ := List.mem_take_iff_getElem.mp hd
  have hjds : j < ds.length := Nat.lt_of_lt_of_le hj (Nat.min_le_right _ _)
  have htick : (p.ticks (ds ++ last))[j]? = some (p.afterAll (ds.take j)).tick := by
    rw [p.getElem?_ticks (Nat.lt_of_lt_of_le hjds (List.length_append ▸ Nat.le_add_right _ _)),
      List.take_append_of_le_length (Nat.le_of_lt hjds)]
  have hdone := h j (Nat.lt_of_lt_of_le hj (Nat.min_le_left _ _)) _ _ htick
    (p.getElem?_rests (List.getElem?_eq_getElem hjds))
  exact Nat.le_of_add_le_add_left hdone

/-- **A task that waits for ticks and works at them keeps to the schedule**, also while it is still
working at the last one. -/
theorem onSchedule {start n : Nat} (hn : 0 < n) (hlast : last.length ≤ 1) :
    OnSchedule start (n * millisecond) ((first start (n * millisecond)).ticks (ds ++ last))
      ((first start (n * millisecond)).rests ds) where
  apart _ _ _ ha hb := apart_of_getElem?_ticks hlast ha hb
  notEarly _ _ ha := notEarly_of_getElem?_ticks hlast ha
  count := length_filter_le_of_notEarly (Nat.mul_pos hn (by decide))
    fun _ _ ha => notEarly_of_getElem?_ticks hlast ha
  punctual k a ha hshort := by
    have hexact := tick_of_short start (durations_le hshort)
    obtain ⟨hk, rfl⟩ := exists_of_getElem?_ticks_append hlast ha
    rw [List.length_take_of_le hk] at hexact
    refine ⟨hexact, fun hstart => hexact.trans (ceilMillis_of_dvd ?_)⟩
    exact Nat.dvd_add hstart (Nat.dvd_mul_left_of_dvd (Nat.dvd_mul_left _ _) _)
  spaced _ _ _ ha hb := spaced_of_getElem?_ticks hlast ha hb

end Pause

end DimensionalMetrics
