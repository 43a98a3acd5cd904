import DimensionalMetrics.Proofs.Simulation.Publishing
import DimensionalMetrics.Proofs.Simulation.Tasks

/-!
# Worlds in which nothing fails that a task calls

The predicate of a dependable world never fails, and its backend answers every request.  In such a
world a publish does not fail, so a step of a task can go wrong in one way only: the task is to add
the frequency to an instant that is not in the future, and gets beyond the clock.
-/

namespace DimensionalMetrics

/-! ### Ticks beyond the clock -/

theorem later?_eq_none_iff {instant nanos : Nat} :
    later? instant nanos = none ↔ clockLimit ≤ instant + nanos := by
  simp only [later?, ite_eq_right_iff, reduceCtorEq, imp_false, Nat.not_lt]

/-- The next tick counts from an instant that is not in the future. -/
theorem Ticker.clockLimit_le_of_next?_eq_none {t : Ticker} {now : Nat} (hdue : t.due ≤ now)
    (hnext : t.next? now = none) : clockLimit ≤ now + t.period := by
  have hdeadline : t.deadline ≤ now := Nat.le_trans (le_ceilMillis t.deadline) hdue
  rw [Ticker.next?, Option.map_eq_none_iff, later?_eq_none_iff] at hnext
  split at hnext
  · omega
  · omega

namespace Registry

theorem beginPublish_ne_crashed {permission : Option Permission}
    (h : ∀ reason, permission ≠ some (.broken reason)) (r : Registry) (o : r.Order)
    (reason : String) : (r.beginPublish o permission).2.2 ≠ .crashed reason := by
  rw [beginPublish]
  split
  · rw [publishFreely]
    dsimp only
    split <;> simp
  · simp
  · rename_i reason' hp
    cases permission with
    | none => cases hp
    | some p => exact absurd (congrArg some hp) (h reason')

end Registry

namespace Simulation

/-! ### Dependable worlds -/

/-- An answer that comes back. -/
def Verdict.Returns (v : Verdict) : Prop := ∀ reason, v ≠ .crash reason

theorem Verdict.returns_outcome (o : Outcome) : (Verdict.outcome o).Returns := by
  simp [Verdict.Returns]

/-- The predicate never fails, and every request is answered. -/
structure World.Dependable (w : World) : Prop where
  predicate : ∀ reason, w.permission ≠ some (.broken reason)
  transport : ∀ answers, w.backend = .scripted answers → ∀ a ∈ answers, a.verdict.Returns

/-- How far a publish can come in a dependable world. -/
def Progress.Sound : Progress → Prop
  | finished => True
  | crashed _ => False
  | flying f => f.verdict.Returns

/-- What a task does whose ticks are to be so far apart. -/
def Work.Sound (frequency : Duration) : Work → Prop
  | arming => True
  | waiting t => t.period = frequency.nanos
  | publishing t f => t.period = frequency.nanos ∧ f.verdict.Returns

namespace World

/-- The tick that a task is to compute next is beyond the clock.  No tick is computed while a
publish is under way. -/
def Overflows (w : World) : Work → Prop
  | .arming => Ticker.start? w.now w.registry.config.frequency = none
  | .waiting t => t.next? w.now = none
  | .publishing _ _ => False

/-- What a task comes to that was doing `work`, if the clock is all that it can crash of. -/
def Explains (w : World) (work : Work) : Phase Work → Prop
  | .alive work' => work'.Sound w.registry.config.frequency
  | .ended .finished => True
  | .ended (.crashed reason) => reason = overflow ∧ w.Overflows work ∧
    clockLimit ≤ w.now + w.registry.config.frequency.nanos

variable {w w' : World}

theorem Dependable.say (h : w.Dependable) (notices : List Notice) : (w.say notices).Dependable :=
  ⟨h.predicate, h.transport⟩

theorem Dependable.send (h : w.Dependable) (c : Call) :
    (w.send c).1.Dependable ∧ (w.send c).2.verdict.Returns := by
  cases hb : w.backend with
  | web =>
    simp only [World.send, hb]
    exact ⟨h, Verdict.returns_outcome _⟩
  | scripted answers =>
    have hanswers := h.transport answers hb
    simp only [World.send, hb]
    refine ⟨⟨h.predicate, ?_⟩, ?_⟩
    · intro answers' heq a ha
      obtain rfl := Backend.scripted.inj heq
      exact hanswers a (List.mem_of_mem_tail ha)
    · cases answers with
      | nil => exact Verdict.returns_outcome .accepted
      | cons a answers => exact hanswers a List.mem_cons_self

/-- Requests that are answered do not break off a delivery. -/
theorem Dependable.pursue (h : w.Dependable) (d : Delivery) :
    (w.pursue d).1.Dependable ∧ (w.pursue d).2.Sound := by
  fun_induction World.pursue w d with
  | case1 w d => exact ⟨h.say _, trivial⟩
  | case2 w d payload rest hw w' answer hsend hdelay reason hverdict =>
    obtain ⟨-, hreturns⟩ := h.send (d.call payload)
    rw [hsend] at hreturns
    exact absurd hverdict (hreturns reason)
  | case3 w d payload rest hw w' answer hsend hdelay o hverdict ih =>
    obtain ⟨hsent, -⟩ := h.send (d.call payload)
    rw [hsend] at hsent
    exact ih (hsent.say (d.remarks payload o))
  | case4 w d payload rest hw w' answer hsend hdelay =>
    obtain ⟨hsent, hreturns⟩ := h.send (d.call payload)
    rw [hsend] at hsent hreturns
    exact ⟨hsent, hreturns⟩

theorem Dependable.land (h : w.Dependable) {f : Flight} (hf : f.verdict.Returns) :
    (w.land f).1.Dependable ∧ (w.land f).2.Sound := by
  rw [World.land]
  split
  · rename_i reason hv
    exact absurd hv (hf reason)
  · exact h.pursue f.delivery
  · exact (h.say _).pursue _

/-- A publish in a dependable world does not fail. -/
theorem Dependable.publish (h : w.Dependable) :
    w.publish.1.Dependable ∧ w.publish.2.Sound := by
  have hbegun : (({ w with
      registry := (w.registry.beginPublish w.registry.ownOrder w.permission).1 } : World).say
        (w.registry.beginPublish w.registry.ownOrder w.permission).2.1).Dependable :=
    ⟨h.predicate, h.transport⟩
  rw [World.publish]
  dsimp only
  split
  · exact ⟨hbegun, trivial⟩
  · rename_i reason hb
    exact absurd hb (Registry.beginPublish_ne_crashed h.predicate w.registry _ reason)
  · exact hbegun.pursue _

theorem explains_phaseAfter {work : Work} {t : Ticker}
    (ht : t.period = w.registry.config.frequency.nanos) {p : Progress} (hp : p.Sound) :
    w.Explains work (phaseAfter t p) := by
  cases p with
  | finished => exact ht
  | crashed reason => exact absurd hp id
  | flying f => exact ⟨ht, hp⟩

/-- A task gets its first ticker unless the first tick is beyond the clock. -/
theorem armed_start?_eq_crashed_iff {now : Nat} {frequency : Duration} :
    armed (Ticker.start? now frequency) = .ended (.crashed overflow) ↔
      clockLimit ≤ now + frequency.nanos := by
  rw [← later?_eq_none_iff, Ticker.start?]
  cases later? now frequency.nanos with
  | none => simp [armed]
  | some deadline => simp [armed]

theorem explains_armed (w : World) :
    w.Explains .arming (armed (Ticker.start? w.now w.registry.config.frequency)) := by
  cases hstart : Ticker.start? w.now w.registry.config.frequency with
  | none =>
    have hlimit := later?_eq_none_iff.mp (Option.map_eq_none_iff.mp hstart)
    exact ⟨rfl, hstart, hlimit⟩
  | some t =>
    obtain ⟨deadline, -, rfl⟩ := Option.map_eq_some_iff.mp hstart
    exact rfl

theorem Dependable.tick (h : w.Dependable) {t : Ticker} (hdue : t.due ≤ w.now)
    (ht : t.period = w.registry.config.frequency.nanos) :
    (w.tick (t.next? w.now)).1.Dependable ∧
      w.Explains (.waiting t) (w.tick (t.next? w.now)).2 := by
  cases hnext : t.next? w.now with
  | none =>
    have hlimit := Ticker.clockLimit_le_of_next?_eq_none hdue hnext
    rw [ht] at hlimit
    exact ⟨h, rfl, hnext, hlimit⟩
  | some t' =>
    obtain ⟨hdependable, hsound⟩ := h.publish
    have hperiod : t'.period = w.registry.config.frequency.nanos := by
      obtain ⟨deadline, -, rfl⟩ := Option.map_eq_some_iff.mp hnext
      exact ht
    exact ⟨hdependable, explains_phaseAfter hperiod hsound⟩

/-- **What one step of a task comes to in a dependable world.** -/
theorem Dependable.step? (h : w.Dependable) {cancelled : Bool} {work : Work} {phase : Phase Work}
    (hwork : work.Sound w.registry.config.frequency)
    (hstep : w.step? cancelled work = some (w', phase)) :
    w'.Dependable ∧ w'.registry.config = w.registry.config ∧ w.Explains work phase := by
  obtain ⟨-, -, hconfig⟩ := step?_frame hstep
  rcases step?_cases hstep with ⟨rfl, rfl, rfl⟩ | ⟨-, -, rfl, rfl⟩ | ⟨t, rfl, -, hdue, htick⟩ |
    ⟨t, f, rfl, -, -, rfl, rfl⟩
  · exact ⟨h, hconfig, explains_armed _⟩
  · exact ⟨h, hconfig, trivial⟩
  · obtain ⟨hdependable, hexplains⟩ := h.tick hdue hwork
    rw [← htick] at hdependable hexplains
    exact ⟨hdependable, hconfig, hexplains⟩
  · obtain ⟨hperiod, hreturns⟩ := hwork
    obtain ⟨hdependable, hsound⟩ := h.land hreturns
    exact ⟨hdependable, hconfig, explains_phaseAfter hperiod hsound⟩

end World

end Simulation

end DimensionalMetrics
