import DimensionalMetrics.Proofs.Simulation.Callers

/-!
# What it means that a publisher counts as running

A publisher counts as running while its task lives, and it does so too after its task has crashed,
until somebody stops it.  There is no third case, because a task that nobody asked to end has no
other way to end.  So a publisher that counts as running has a living task unless that one has
crashed unnoticed, and in just these states a start succeeds whenever no task lives.
-/

namespace DimensionalMetrics

variable {α : Type}

namespace Lifecycle

variable {l l' : Lifecycle α} {task : Nat}

/-- The task of a running publisher has crashed, and nobody has stopped the publisher since. -/
def CrashedUnnoticed (l : Lifecycle α) : Prop :=
  ∃ task reason, l.stage = .running task ∧ l.ending? task = some (.crashed reason)

/-- The stage names only tasks that were spawned, and the task of a running publisher was not asked
to end and did not end of its own accord. -/
structure Accounted (l : Lifecycle α) : Prop where
  running : ∀ task, l.stage = .running task →
    ∃ t, l.tasks[task]? = some t ∧ t.cancelled = false ∧ t.phase ≠ .ended .finished
  stopping : ∀ task, l.stage = .stopping task → task < l.tasks.length

theorem accounted_of_stopped (h : l.stage = .stopped) : l.Accounted := by
  constructor
  · intro task hs
    rw [h] at hs
    cases hs
  · intro task hs
    rw [h] at hs
    cases hs

theorem accounted_spawn (l : Lifecycle α) (work : α) : (l.spawn work).Accounted := by
  constructor
  · intro task hs
    obtain rfl : l.tasks.length = task := Stage.running.inj hs
    refine ⟨⟨false, .alive work⟩, ?_, rfl, nofun⟩
    rw [getElem?_spawn, if_pos rfl]
  · intro task hs
    cases hs

namespace Accounted

theorem beginStop (h : l.Accounted) : l.beginStop.1.Accounted := by
  rcases l.beginStop_cases with hsame | ⟨i, hrunning, hasked⟩
  · rwa [hsame]
  · have hstage : l.beginStop.1.stage = .stopping i := congrArg Lifecycle.stage hasked
    constructor
    · intro task hs
      rw [hstage] at hs
      cases hs
    · intro task hs
      rw [hstage] at hs
      obtain rfl := Stage.stopping.inj hs
      obtain ⟨t, ht, -⟩ := h.running i hrunning
      obtain ⟨hlt, -⟩ := List.getElem?_eq_some_iff.mp ht
      exact Nat.lt_of_lt_of_le hlt (Leads.beginStop l).length_le

theorem resume? {call : StopCall} {notices : List Notice} (h : l.Accounted)
    (hreturn : l.resume? call = some (l', notices)) : l'.Accounted := by
  rcases resume?_cases hreturn with rfl | ⟨t, -, -, rfl⟩
  · exact h
  · exact accounted_of_stopped rfl

/-- A task may go on, and it may crash; it ends of its own accord only if it was asked to. -/
theorem proceed (h : l.Accounted) {i : Nat} {cancelled : Bool} {work : α} {phase : Phase α}
    (hlives : l.tasks[i]? = some ⟨cancelled, .alive work⟩)
    (hleave : phase = .ended .finished → cancelled = true) : (l.proceed i phase).Accounted := by
  constructor
  · intro task hs
    obtain ⟨t, ht, hc, hphase⟩ := h.running task hs
    by_cases hi : i = task
    · -- The task of a running publisher was not asked to end, so it has not left its loop.
      subst hi
      obtain rfl : t = ⟨cancelled, .alive work⟩ := Option.some.inj (ht.symm.trans hlives)
      refine ⟨⟨cancelled, phase⟩, ?_, hc, ?_⟩
      · simp [Lifecycle.proceed, Lifecycle.modify, hlives]
      · intro hfinished
        rw [hleave hfinished] at hc
        cases hc
    · refine ⟨t, ?_, hc, hphase⟩
      simp [Lifecycle.proceed, Lifecycle.modify, hi, ht]
  · intro task hs
    exact Nat.lt_of_lt_of_le (h.stopping task hs)
      (Leads.proceed ⟨cancelled, work, hlives⟩ phase).length_le

/-- The task of a running publisher lives, or has crashed. -/
theorem lives_or_crashed (h : l.Accounted) (hs : l.stage = .running task) :
    l.Lives task ∨ ∃ reason, l.ending? task = some (.crashed reason) := by
  obtain ⟨⟨cancelled, phase⟩, ht, -, hphase⟩ := h.running task hs
  cases phase with
  | alive work => exact .inl ⟨cancelled, work, ht⟩
  | ended ending =>
    cases ending with
    | finished => exact absurd rfl hphase
    | crashed reason =>
      right
      exact ⟨reason, by simp only [ending?, ht, Option.bind_some, Task.ending?]⟩

end Accounted

/-! ### Crashes -/

namespace CrashedUnnoticed

theorem isRunning (h : l.CrashedUnnoticed) : l.isRunning = true := by
  obtain ⟨task, reason, hs, -⟩ := h
  simp only [Lifecycle.isRunning, isIdle, hs, Bool.not_false]

theorem start_eq_error (h : l.CrashedUnnoticed) (work : α) :
    l.start true work = .error .alreadyRunning := by
  obtain ⟨task, reason, hs, -⟩ := h
  simp [Lifecycle.start, hs]

theorem not_lives (h : l.CrashedUnnoticed) (htracked : l.Tracked) : ¬ ∃ task, l.Lives task := by
  obtain ⟨t, reason, hs, hending⟩ := h
  rintro ⟨task, hlives⟩
  have hended : l.hasEnded t = true := by
    simp only [Lifecycle.hasEnded, hending, Option.isSome_some]
  rcases htracked task hlives with hstage | hstage
  · obtain rfl : t = task := Stage.running.inj (hs.symm.trans hstage)
    exact not_lives_of_hasEnded hended hlives
  · rw [hs] at hstage
    cases hstage

/-- The first step of a stop is enough to get out of a crash. -/
theorem isRunning_beginStop (h : l.CrashedUnnoticed) : l.beginStop.1.isRunning = false := by
  obtain ⟨task, reason, hs, hending⟩ := h
  have hended : l.hasEnded task = true := by
    simp only [Lifecycle.hasEnded, hending, Option.isSome_some]
  have hlater : l.beginStop.1.hasEnded task = true := (Leads.beginStop l).hasEnded hended
  have hstage : l.beginStop.1.stage = .stopping task := by simp only [Lifecycle.beginStop, hs]
  simp only [Lifecycle.isRunning, isIdle, hstage, hlater, Bool.not_true]

end CrashedUnnoticed

theorem start_of_not_running (h : l.isRunning = false) (work : α) :
    l.start true work = .ok (l.spawn work) := by
  have hidle : l.isIdle = true := by simpa only [Lifecycle.isRunning, Bool.not_eq_false'] using h
  cases hs : l.stage with
  | stopped => simp [Lifecycle.start, hs]
  | running t =>
    simp only [isIdle, hs] at hidle
    cases hidle
  | stopping t =>
    simp only [isIdle, hs] at hidle
    simp [Lifecycle.start, hs, hidle]

theorem Accounted.isRunning_iff (h : l.Accounted) (htracked : l.Tracked) :
    l.isRunning = true ↔ (∃ task, l.Lives task) ∨ l.CrashedUnnoticed := by
  constructor
  · intro hrunning
    cases hs : l.stage with
    | stopped => simp [Lifecycle.isRunning, isIdle, hs] at hrunning
    | running task =>
      rcases h.lives_or_crashed hs with hlives | ⟨reason, hcrashed⟩
      · exact .inl ⟨task, hlives⟩
      · exact .inr ⟨task, reason, hs, hcrashed⟩
    | stopping task =>
      rcases lives_or_hasEnded (h.stopping task hs) with hlives | hended
      · exact .inl ⟨task, hlives⟩
      · simp [Lifecycle.isRunning, isIdle, hs, hended] at hrunning
  · rintro (⟨task, hlives⟩ | hcrashed)
    · rw [Lifecycle.isRunning, htracked.isIdle hlives]
      rfl
    · exact hcrashed.isRunning

end Lifecycle

namespace Simulation

namespace SharedWorld

variable {oneThread : Bool} {s s' : SharedWorld} {turns : List Turn}

theorem Step.accounted (hstep : Step oneThread s turns s') (h : s.world.publisher.Accounted) :
    s'.world.publisher.Accounted := by
  cases hstep with
  | outside hsame => exact hsame.symm ▸ h
  | start canSpawn =>
    cases hs : s.world.publisher.start canSpawn .arming with
    | error e => simpa only [World.start, hs] using h
    | ok publisher =>
      obtain ⟨-, -, rfl⟩ := Lifecycle.start_cases hs
      simp only [World.start, hs]
      exact Lifecycle.accounted_spawn s.world.publisher .arming
  | beginStop => exact h.beginStop
  | resume hcall hreturn =>
    obtain ⟨⟨publisher, notices⟩, hpublisher, rfl⟩ := Option.map_eq_some_iff.mp hreturn
    exact h.resume? hpublisher
  | abandon hcall => exact h
  | turn hbefore hlives hsame hleave hpoll =>
    rw [hsame]
    exact h.proceed hlives hleave
  | crash reason hlives =>
    obtain ⟨cancelled, work, htask⟩ := hlives
    refine h.proceed htask ?_
    intro hfinished
    cases hfinished

theorem Run.accounted (hrun : Run oneThread s turns s') (h : s.world.publisher.Accounted) :
    s'.world.publisher.Accounted := by
  induction hrun with
  | refl => exact h
  | step _ hstep ih => exact hstep.accounted ih

/-- **A publisher that counts as running has a living task, unless that one crashed unnoticed.**
This is also the only case in which no task lives and a start fails; it ends with the first step of
a stop. -/
theorem running_unless_crashed {w : World} (hw : w.publisher = .new)
    (hrun : Run oneThread ⟨w, []⟩ turns s) :
    (s.world.publisher.isRunning = true ↔
        (∃ task, s.world.publisher.Lives task) ∨ s.world.publisher.CrashedUnnoticed) ∧
      ((s.world.publisher.isRunning = true → ∃ task, s.world.publisher.Lives task) ↔
        ¬ s.world.publisher.CrashedUnnoticed) ∧
      (((¬ ∃ task, s.world.publisher.Lives task) → ∀ work,
          s.world.publisher.start true work = .ok (s.world.publisher.spawn work)) ↔
        ¬ s.world.publisher.CrashedUnnoticed) ∧
      (s.world.publisher.CrashedUnnoticed →
        (∀ work, s.world.publisher.start true work = .error .alreadyRunning) ∧
          s.world.beginStop.1.publisher.isRunning = false) := by
  have htracked : s.world.publisher.Tracked := hrun.tracked (hw ▸ Lifecycle.tracked_new)
  have haccounted : s.world.publisher.Accounted :=
    hrun.accounted (hw ▸ Lifecycle.accounted_of_stopped rfl)
  have hrunning := haccounted.isRunning_iff htracked
  refine ⟨hrunning, ?_, ?_, ?_⟩
  · constructor
    · intro hlives hcrashed
      exact hcrashed.not_lives htracked (hlives hcrashed.isRunning)
    · intro hnot h
      exact (hrunning.mp h).resolve_right hnot
  · constructor
    · intro hstart hcrashed
      have hok := hstart (hcrashed.not_lives htracked) .arming
      rw [hcrashed.start_eq_error] at hok
      cases hok
    · intro hnot hlives
      apply Lifecycle.start_of_not_running
      rw [← Bool.not_eq_true, hrunning]
      rintro (h | h)
      · exact hlives h
      · exact hnot h
  · intro hcrashed
    exact ⟨hcrashed.start_eq_error, hcrashed.isRunning_beginStop⟩

/-- A crash is over when somebody stops the publisher, even one who does not wait: then the
publisher does not count as running, and can be started again. -/
theorem started_again_after_crash :
    let r : Registry := ⟨{}, by decide, []⟩
    let w : World := ⟨r, some (.broken "predicate failed"), .web, 0, .new, #[]⟩
    let s : SharedWorld := ⟨((w.start true).1.advanceTo (5000 * millisecond)).beginStop.1, []⟩
    (∃ turns, Run true ⟨w, []⟩ turns s) ∧ ¬ s.world.publisher.CrashedUnnoticed ∧
      (¬ ∃ task, s.world.publisher.Lives task) ∧ s.world.publisher.isRunning = false ∧
      s.world.publisher.start true .arming = .ok (s.world.publisher.spawn .arming) := by
  intro r w s
  obtain ⟨turns, hrun⟩ : ∃ turns, Run true ⟨w, []⟩ turns s := by
    obtain ⟨turns, htime⟩ := run_advanceTo (w.start true).1 (5000 * millisecond) []
    exact ⟨_, ((Run.single (.start true)).trans htime).trans (run_givenUp _ [])⟩
  have hstage : s.world.publisher.stage = .stopping 0 := by decide +kernel
  have hidle : s.world.publisher.isRunning = false := by decide +kernel
  obtain ⟨hrunning, -, hstart, -⟩ := running_unless_crashed rfl hrun
  have hcrashed : ¬ s.world.publisher.CrashedUnnoticed := by
    rintro ⟨task, reason, hs, -⟩
    rw [hstage] at hs
    cases hs
  have hlives : ¬ ∃ task, s.world.publisher.Lives task := by
    intro h
    rw [hrunning.mpr (.inl h)] at hidle
    cases hidle
  exact ⟨⟨turns, hrun⟩, hcrashed, hlives, hidle, hstart.mpr hcrashed hlives .arming⟩

/-- A predicate fails at the first tick.  No task lives any more, but the publisher counts as
running and cannot be started. -/
theorem running_after_failed_predicate :
    let r : Registry := ⟨{}, by decide, []⟩
    let w : World := ⟨r, some (.broken "predicate failed"), .web, 0, .new, #[]⟩
    let s : SharedWorld := ⟨(w.start true).1.advanceTo (5000 * millisecond), []⟩
    (∃ turns, Run true ⟨w, []⟩ turns s) ∧ (¬ ∃ task, s.world.publisher.Lives task) ∧
      s.world.publisher.isRunning = true ∧
      s.world.publisher.start true .arming = .error .alreadyRunning := by
  intro r w s
  obtain ⟨turns, hrun⟩ : ∃ turns, Run true ⟨w, []⟩ turns s := by
    obtain ⟨turns, htime⟩ := run_advanceTo (w.start true).1 (5000 * millisecond) []
    exact ⟨_, (Run.single (.start true)).trans htime⟩
  have hpublisher : s.world.publisher =
      ⟨.running 0, [⟨false, .ended (.crashed "predicate failed")⟩]⟩ := by
    decide +kernel
  refine ⟨⟨turns, hrun⟩, ?_, ?_, ?_⟩
  · rintro ⟨task, hlives⟩
    rw [hpublisher] at hlives
    obtain ⟨cancelled, work, htask⟩ := hlives
    cases task with
    | zero => cases htask
    | succ task => cases htask
  · rw [hpublisher]
    rfl
  · rw [hpublisher]
    rfl

end SharedWorld

end Simulation

end DimensionalMetrics
