import DimensionalMetrics.Proofs.Publisher.Payloads
import DimensionalMetrics.Proofs.Simulation.Callers
import DimensionalMetrics.Proofs.Simulation.Dependable

/-!
# What a task can die of

A registry is built only from a configuration that was looked at, so that the task of its publisher
can rely on it.  In a calm run nothing fails that a task calls, whoever starts and stops the
publisher meanwhile.  Then a task lives until it was asked to end, as it should, but for one thing:
frequencies that lead beyond the clock are not refused, and a task that comes across one is dead.
-/

namespace DimensionalMetrics

/-! ### Tasks before and after -/

namespace Lifecycle

variable {α : Type} {l : Lifecycle α} {task : Nat}

theorem Lives.spawn (h : l.Lives task) (work : α) : (l.spawn work).Lives task := by
  obtain ⟨cancelled, work', htask⟩ := h
  obtain ⟨hlt, -⟩ := List.getElem?_eq_some_iff.mp htask
  refine ⟨cancelled, work', ?_⟩
  rw [getElem?_spawn, if_neg (Nat.ne_of_lt hlt)]
  exact htask

/-- A task that is asked to end lives on until its next turn. -/
theorem Lives.beginStop (h : l.Lives task) : l.beginStop.1.Lives task := by
  rcases l.beginStop_cases with hsame | ⟨i, -, hasked⟩
  · rwa [hsame]
  · obtain ⟨cancelled, work, htask⟩ := h
    refine ⟨if i = task then true else cancelled, work, ?_⟩
    rw [hasked]
    simp only [modify, List.getElem?_modify, htask]
    split
    · rfl
    · rfl

end Lifecycle

namespace Simulation

/-- What is known of a turn in a dependable world with a given configuration. -/
structure Turn.Explained (c : Config) (u : Turn) : Prop where
  config : u.before.registry.config = c
  explains : u.before.Explains u.work u.phase
  arming : u.work = .arming → u.phase = World.armed (Ticker.start? u.before.now c.frequency)

/-! ### Where the tasks of a shared world come from -/

namespace SharedWorld

variable {oneThread : Bool} {s s' s'' : SharedWorld} {turns more : List Turn}

/-- What was done to a task in one step. -/
inductive Origin (s : SharedWorld) (turns : List Turn) (s' : SharedWorld) (task : Nat)
    (t' : Task Work) : Prop
  | kept {t : Task Work} (ht : s.world.publisher.tasks[task]? = some t)
      (hphase : t'.phase = t.phase) (hcancelled : t.cancelled = true → t'.cancelled = true)
  | spawned (hphase : t'.phase = .alive .arming)
  | turned {u : Turn} (hu : u ∈ turns) (htask : u.task = task) (hphase : t'.phase = u.phase)
      (hleave : u.phase = .ended .finished → t'.cancelled = true)
  | killed (hturns : turns = []) (hlives : s.world.publisher.Lives task)
      (hended : ¬ s'.world.publisher.Lives task)

theorem Step.origin (hstep : Step oneThread s turns s') {task : Nat} {t' : Task Work}
    (ht' : s'.world.publisher.tasks[task]? = some t') : Origin s turns s' task t' := by
  cases hstep.change task with
  | absent hturns hbefore hafter => cases ht'.symm.trans hafter
  | kept hturns hbefore hafter hphase hcancelled =>
    obtain rfl := Option.some.inj (hafter.symm.trans ht')
    exact .kept hbefore hphase hcancelled
  | spawned hturns hbefore hafter =>
    obtain rfl := Option.some.inj (hafter.symm.trans ht')
    exact .spawned rfl
  | turned hturns htask hworld hbefore hafter hnow hleave hpoll =>
    obtain rfl := Option.some.inj (hafter.symm.trans ht')
    exact .turned (hturns ▸ List.mem_cons_self) htask rfl hleave
  | killed hturns hbefore hafter =>
    refine .killed hturns ⟨_, _, hbefore⟩ ?_
    rintro ⟨cancelled, work, halive⟩
    cases hafter.symm.trans halive

/-! ### Calm runs -/

/-- A step in which nothing fails but what a task does by itself: all that is not a turn leaves the
world dependable, the configuration as it is, and every task alive. -/
structure Calm (s : SharedWorld) (turns : List Turn) (s' : SharedWorld) : Prop where
  step : Step true s turns s'
  dependable : turns = [] → s'.world.Dependable
  config : turns = [] → s'.world.registry.config = s.world.registry.config
  spared : turns = [] → ∀ task, s.world.publisher.Lives task → s'.world.publisher.Lives task

inductive CalmRun (s : SharedWorld) : List Turn → SharedWorld → Prop
  | refl : CalmRun s [] s
  | step {turns more : List Turn} {s' s'' : SharedWorld} (h : CalmRun s turns s')
      (hcalm : Calm s' more s'') : CalmRun s (turns ++ more) s''

/-- How a task of a calm run stands: it goes on, or it was asked to end, or it crashed in one of the
turns. -/
def Accounts (frequency : Duration) (turns : List Turn) (task : Nat) (t : Task Work) : Prop :=
  match t.phase with
  | .alive work => work.Sound frequency
  | .ended .finished => t.cancelled = true
  | .ended (.crashed reason) => ∃ u ∈ turns, u.task = task ∧ u.phase = .ended (.crashed reason)

/-- What is known in a calm run with a given configuration. -/
structure Steady (c : Config) (turns : List Turn) (s : SharedWorld) : Prop where
  dependable : s.world.Dependable
  config : s.world.registry.config = c
  explained : ∀ u ∈ turns, u.Explained c
  accounted : ∀ task t, s.world.publisher.tasks[task]? = some t →
    Accounts c.frequency turns task t

theorem Accounts.append {frequency : Duration} {task : Nat} {t : Task Work}
    (h : Accounts frequency turns task t) (more : List Turn) :
    Accounts frequency (turns ++ more) task t := by
  obtain ⟨cancelled, phase⟩ := t
  cases phase with
  | alive work => exact h
  | ended ending =>
    cases ending with
    | finished => exact h
    | crashed reason =>
      obtain ⟨u, hu, htask, hphase⟩ := h
      exact ⟨u, List.mem_append_left more hu, htask, hphase⟩

theorem Accounts.of_phase_eq {frequency : Duration} {task : Nat} {t t' : Task Work}
    (h : Accounts frequency turns task t) (hphase : t'.phase = t.phase)
    (hcancelled : t.cancelled = true → t'.cancelled = true) : Accounts frequency turns task t' := by
  obtain ⟨cancelled, phase⟩ := t
  obtain ⟨cancelled', phase'⟩ := t'
  subst hphase
  cases phase' with
  | alive work => exact h
  | ended ending =>
    cases ending with
    | finished => exact hcancelled h
    | crashed reason => exact h

/-- A task that lives is the one it was, a new one, or one that has taken a turn. -/
theorem Origin.accounts {c : Config} {task : Nat} {t' : Task Work}
    (horigin : Origin s more s' task t') (h : Steady c turns s) (hmore : ∀ u ∈ more, u.Explained c)
    (hspared : more = [] → s.world.publisher.Lives task → s'.world.publisher.Lives task) :
    Accounts c.frequency (turns ++ more) task t' := by
  cases horigin with
  | kept ht hphase hcancelled =>
    exact ((h.accounted task _ ht).append more).of_phase_eq hphase hcancelled
  | spawned hphase =>
    rw [Accounts, hphase]
    trivial
  | @turned u hu htask hphase hleave =>
    obtain ⟨hconfig, hexplains, -⟩ := hmore u hu
    rw [Accounts, hphase]
    cases hu' : u.phase with
    | alive work =>
      rw [hu', World.Explains, hconfig] at hexplains
      exact hexplains
    | ended ending =>
      cases ending with
      | finished => exact hleave hu'
      | crashed reason => exact ⟨u, List.mem_append_right turns hu, htask, hu'⟩
  | killed hturns hlives hended => exact absurd (hspared hturns hlives) hended

/-- A turn in a calm run is explained, and leaves the world as dependable as it was. -/
theorem Steady.turn {c : Config} (h : Steady c turns s) {u : Turn} {cancelled : Bool}
    (hbefore : u.before = s.world)
    (hlives : s.world.publisher.tasks[u.task]? = some ⟨cancelled, .alive u.work⟩)
    (hstep : s.world.step? cancelled u.work = some (u.after, u.phase)) :
    u.after.Dependable ∧ u.after.registry.config = c ∧ u.Explained c := by
  have hsound : u.work.Sound s.world.registry.config.frequency := by
    rw [h.config]
    exact h.accounted u.task _ hlives
  obtain ⟨hdependable, hconfig, hexplains⟩ := h.dependable.step? hsound hstep
  rw [← hbefore] at hexplains
  refine ⟨hdependable, hconfig.trans h.config, hbefore ▸ h.config, hexplains, ?_⟩
  intro harming
  rw [harming, World.step?, Option.some.injEq, Prod.mk.injEq] at hstep
  rw [← hstep.2, h.config, hbefore]

theorem Steady.step {c : Config} (h : Steady c turns s) (hcalm : Calm s more s') :
    Steady c (turns ++ more) s' := by
  obtain ⟨hstep, hdependable, hconfig, hspared⟩ := hcalm
  have hmore : s'.world.Dependable ∧ s'.world.registry.config = c ∧ ∀ u ∈ more, u.Explained c := by
    cases more with
    | nil => exact ⟨hdependable rfl, (hconfig rfl).trans h.config, List.forall_mem_nil _⟩
    | cons u rest =>
      cases hstep with
      | turn hbefore hlives hsame hleave hpoll =>
        obtain ⟨hafter, hconfig', hturn⟩ := h.turn hbefore hlives (hpoll rfl)
        refine ⟨⟨hafter.predicate, hafter.transport⟩, hconfig', ?_⟩
        intro u' hu'
        rw [List.mem_singleton.mp hu']
        exact hturn
  obtain ⟨hdependable', hconfig', hturns⟩ := hmore
  refine ⟨hdependable', hconfig', ?_, ?_⟩
  · intro u hu
    rcases List.mem_append.mp hu with hu | hu
    · exact h.explained u hu
    · exact hturns u hu
  · intro task t ht
    exact (hstep.origin ht).accounts h hturns fun hnil => hspared hnil task

theorem CalmRun.steady {c : Config} (hrun : CalmRun s turns s') (h : Steady c [] s) :
    Steady c turns s' := by
  induction hrun with
  | refl => exact h
  | step _ hcalm ih => exact ih.step hcalm

theorem steady_new {w : World} (hw : w.publisher = .new) (hdependable : w.Dependable) :
    Steady w.registry.config [] ⟨w, []⟩ := by
  refine ⟨hdependable, rfl, List.forall_mem_nil _, ?_⟩
  intro task t ht
  rw [hw] at ht
  cases ht

/-! ### What callers do is calm, and so is the passing of time -/

theorem calm_start (hdependable : s.world.Dependable) (canSpawn : Bool) :
    Calm s [] ⟨(s.world.start canSpawn).1, s.stops⟩ := by
  have hstep : Step true s [] _ := .start canSpawn
  cases hstart : s.world.publisher.start canSpawn .arming with
  | error e =>
    simp only [World.start, hstart] at hstep ⊢
    exact ⟨hstep, fun _ => hdependable, fun _ => rfl, fun _ _ => id⟩
  | ok publisher =>
    obtain ⟨-, -, rfl⟩ := Lifecycle.start_cases hstart
    simp only [World.start, hstart] at hstep ⊢
    exact ⟨hstep, fun _ => ⟨hdependable.predicate, hdependable.transport⟩, fun _ => rfl,
      fun _ _ hlives => hlives.spawn .arming⟩

theorem calm_beginStop (hdependable : s.world.Dependable) :
    Calm s [] ⟨s.world.beginStop.1, s.world.beginStop.2 :: s.stops⟩ :=
  ⟨.beginStop, fun _ => ⟨hdependable.predicate, hdependable.transport⟩, fun _ => rfl,
    fun _ _ hlives => hlives.beginStop⟩

theorem calm_turn {u : Turn} (hstep : Step true s [u] s') : Calm s [u] s' := by
  have hne : [u] ≠ [] := List.cons_ne_nil u []
  exact ⟨hstep, fun hnil => absurd hnil hne, fun hnil => absurd hnil hne,
    fun hnil => absurd hnil hne⟩

theorem calm_wait (hdependable : s.world.Dependable) (now : Nat) :
    Calm s [] ⟨{ s.world with now }, s.stops⟩ :=
  ⟨.outside rfl, fun _ => ⟨hdependable.predicate, hdependable.transport⟩, fun _ => rfl,
    fun _ _ => id⟩

theorem CalmRun.trans (h : CalmRun s turns s') (h' : CalmRun s' more s'') :
    CalmRun s (turns ++ more) s'' := by
  induction h' with
  | refl => simpa using h
  | step _ hcalm ih =>
    rw [← List.append_assoc]
    exact .step ih hcalm

theorem CalmRun.single (hcalm : Calm s turns s') : CalmRun s turns s' := .step .refl hcalm

theorem Steady.calmRun_runUntil {c : Config} {w : World} {stops : List StopCall}
    (h : Steady c turns ⟨w, stops⟩) (fuel limit : Nat) :
    ∃ more, CalmRun ⟨w, stops⟩ more ⟨w.runUntil fuel limit, stops⟩ := by
  fun_induction World.runUntil fuel limit w generalizing turns with
  | case1 w => exact ⟨_, .single (calm_wait (s := ⟨w, stops⟩) h.dependable _)⟩
  | case2 w => exact ⟨_, .single (calm_wait (s := ⟨w, stops⟩) h.dependable _)⟩
  | case3 w fuel task cancelled work hliving w' phase hstep ih =>
    have hturn := calm_turn (step_living stops hliving hstep)
    obtain ⟨more, hrest⟩ := ih (h.step hturn)
    exact ⟨_, (CalmRun.single hturn).trans hrest⟩
  | case4 w fuel task cancelled work hliving hstep hdue ih =>
    have hwait := calm_wait (s := ⟨w, stops⟩) h.dependable (max w.now work.wake)
    obtain ⟨more, hrest⟩ := ih (h.step hwait)
    exact ⟨_, (CalmRun.single hwait).trans hrest⟩
  | case5 w => exact ⟨_, .single (calm_wait (s := ⟨w, stops⟩) h.dependable _)⟩

/-- To let time pass is a calm run. -/
theorem Steady.calmRun_advanceTo {c : Config} {w : World} {stops : List StopCall}
    (h : Steady c turns ⟨w, stops⟩) (limit : Nat) :
    ∃ more, CalmRun ⟨w, stops⟩ more ⟨w.advanceTo limit, stops⟩ := by
  rw [World.advanceTo]
  exact h.calmRun_runUntil _ _

/-- A publisher is started, and time passes. -/
theorem calmRun_started {w : World} (hw : w.publisher = .new) (hdependable : w.Dependable)
    (limit : Nat) : ∃ turns, CalmRun ⟨w, []⟩ turns ⟨(w.start true).1.advanceTo limit, []⟩ := by
  have hstart := calm_start (s := ⟨w, []⟩) hdependable true
  obtain ⟨more, htime⟩ := ((steady_new hw hdependable).step hstart).calmRun_advanceTo limit
  exact ⟨_, (CalmRun.single hstart).trans htime⟩

/-- A publisher is started and, after some time, asked to stop. -/
theorem calmRun_stopping {w : World} (hw : w.publisher = .new) (hdependable : w.Dependable)
    (limit : Nat) :
    let started := (w.start true).1.advanceTo limit
    ∃ turns, CalmRun ⟨w, []⟩ turns ⟨started.beginStop.1.settle, [started.beginStop.2]⟩ := by
  intro started
  obtain ⟨turns, hrun⟩ := calmRun_started hw hdependable limit
  have hsteady := hrun.steady (steady_new hw hdependable)
  have hstop := calm_beginStop (s := ⟨started, []⟩) hsteady.dependable
  obtain ⟨more, htime⟩ := (hsteady.step hstop).calmRun_advanceTo started.beginStop.1.now
  exact ⟨_, (hrun.step hstop).trans htime⟩

/-- **Nothing but the clock can kill a task.**  If nothing fails that the task of a publisher calls,
then whenever it was started and whatever the registry holds it lives, or it has ended and was asked
to, or it has crashed.  A task that crashes was to compute its next tick, and the present instant
and the frequency led beyond the clock; in its first turn it crashes just if they do.  As for what a
publish computes, the pieces of a sweep can be written, and no more records arrive than there
are. -/
theorem only_overflow_kills {w : World} (hw : w.publisher = .new) (hdependable : w.Dependable)
    (hrun : CalmRun ⟨w, []⟩ turns s) :
    (∀ task < s.world.publisher.tasks.length, s.world.publisher.Lives task ∨
        (s.world.publisher.ending? task = some .finished ∧ s.world.publisher.Cancelled task) ∨
        (s.world.publisher.ending? task = some (.crashed World.overflow) ∧
          ∃ u ∈ turns, u.task = task ∧ u.phase = .ended (.crashed World.overflow))) ∧
      (∀ u ∈ turns,
        (∀ reason, u.phase = .ended (.crashed reason) →
          reason = World.overflow ∧ u.before.Overflows u.work ∧
            clockLimit ≤ u.before.now + w.registry.config.frequency.nanos) ∧
        (u.work = .arming → (u.phase = .ended (.crashed World.overflow) ↔
          clockLimit ≤ u.before.now + w.registry.config.frequency.nanos))) ∧
      ∀ ms outcomes,
        (∀ piece ∈ chunks w.registry.config.batchSize (Delivery.records w.registry.config ms),
          Encodable w.registry.config.batchSize piece) ∧
        ((Delivery.ofMeasurements w.registry.config ms).after outcomes).Covered := by
  have hsteady := hrun.steady (steady_new hw hdependable)
  have hturns : ∀ u ∈ turns, ∀ reason, u.phase = .ended (.crashed reason) →
      reason = World.overflow ∧ u.before.Overflows u.work ∧
        clockLimit ≤ u.before.now + w.registry.config.frequency.nanos := by
    intro u hu reason hphase
    obtain ⟨hconfig, hexplains, -⟩ := hsteady.explained u hu
    rw [hphase, World.Explains, hconfig] at hexplains
    exact hexplains
  refine ⟨?_, ?_, ?_⟩
  · intro task htask
    have ht := List.getElem?_eq_getElem htask
    have haccounts := hsteady.accounted task _ ht
    rcases hphase : s.world.publisher.tasks[task] with ⟨cancelled, work | ending⟩
    · rw [hphase] at ht
      exact .inl ⟨cancelled, work, ht⟩
    · rw [hphase] at ht haccounts
      have hending : s.world.publisher.ending? task = some ending := by
        simp only [Lifecycle.ending?, ht, Option.bind_some, Task.ending?]
      rw [hending]
      cases ending with
      | finished => exact .inr (.inl ⟨rfl, _, ht, haccounts⟩)
      | crashed reason =>
        obtain ⟨u, hu, hu', hcrashed⟩ := haccounts
        obtain ⟨rfl, -⟩ := hturns u hu reason hcrashed
        exact .inr (.inr ⟨rfl, u, hu, hu', hcrashed⟩)
  · intro u hu
    refine ⟨hturns u hu, ?_⟩
    intro harming
    rw [(hsteady.explained u hu).arming harming]
    exact World.armed_start?_eq_crashed_iff
  · intro ms outcomes
    refine ⟨?_, (Delivery.covered_ofMeasurements _ ms).after outcomes⟩
    intro piece hpiece
    exact encodable_of_mem_chunks w.registry.usable.batchSize_pos hpiece

/-- A task publishes once, waits for the answer, and is asked to stop. -/
theorem stopped_task_was_asked :
    let r : Registry := ⟨{ uri := "unix:/run/backend" }, by decide,
      [⟨.ofTags "requests" .empty, .counter 1⟩]⟩
    let w : World := ⟨r, none, .scripted [⟨20, .outcome .accepted⟩], 0, .new, #[]⟩
    let started : World := (w.start true).1.advanceTo (6000 * millisecond)
    let s : SharedWorld := ⟨started.beginStop.1.settle, [started.beginStop.2]⟩
    w.publisher = .new ∧ w.Dependable ∧ started.events.size = 4 ∧
      (∃ turns, CalmRun ⟨w, []⟩ turns s) ∧ s.world.publisher.ending? 0 = some .finished ∧
      s.world.publisher.Cancelled 0 := by
  intro r w started s
  have hdependable : w.Dependable := by
    constructor
    · simp [w]
    · intro answers heq a ha
      obtain rfl := Backend.scripted.inj heq
      obtain rfl := List.mem_singleton.mp ha
      exact Verdict.returns_outcome .accepted
  have hsent : started.events.size = 4 := by decide +kernel
  have hlength : s.world.publisher.tasks.length = 1 := by decide +kernel
  have hending : s.world.publisher.ending? 0 = some .finished := by decide +kernel
  obtain ⟨turns, hrun⟩ : ∃ turns, CalmRun ⟨w, []⟩ turns s :=
    calmRun_stopping rfl hdependable (6000 * millisecond)
  have htheorem := only_overflow_kills rfl hdependable hrun
  -- From here on nothing more is computed.
  clear_value s
  refine ⟨rfl, hdependable, hsent, ⟨turns, hrun⟩, hending, ?_⟩
  rcases htheorem.1 0 (by omega) with hlives | ⟨-, hcancelled⟩ | ⟨hcrashed, -⟩
  · obtain ⟨cancelled, work, htask⟩ := hlives
    simp [Lifecycle.ending?, htask, Task.ending?] at hending
  · exact hcancelled
  · rw [hending] at hcrashed
    cases hcrashed

/-- The longest frequency there is can be used.  Nothing fails that the task calls, and nobody asks
it to end, but it dies before its first tick. -/
theorem longest_frequency_kills :
    let r : Registry := ⟨{ frequency := ⟨0xffffffffffffffff, 0⟩ }, by decide, []⟩
    let w : World := ⟨r, none, .web, 0, .new, #[]⟩
    let s : SharedWorld := ⟨(w.start true).1.advanceTo 0, []⟩
    w.publisher = .new ∧ w.Dependable ∧ (∃ turns, CalmRun ⟨w, []⟩ turns s) ∧
      ¬ s.world.publisher.Lives 0 ∧ ¬ s.world.publisher.Cancelled 0 ∧
      s.world.publisher.ending? 0 = some (.crashed World.overflow) := by
  intro r w s
  have hdependable : w.Dependable := by
    constructor
    · simp [w]
    · simp [w]
  have hpublisher : s.world.publisher =
      ⟨.running 0, [⟨false, .ended (.crashed World.overflow)⟩]⟩ := by
    decide +kernel
  have hrun : ∃ turns, CalmRun ⟨w, []⟩ turns s := calmRun_started rfl hdependable 0
  -- From here on nothing more is computed.
  clear_value s
  refine ⟨rfl, hdependable, hrun, ?_, ?_, ?_⟩
  · rintro ⟨cancelled, work, htask⟩
    rw [hpublisher] at htask
    cases htask
  · rintro ⟨t, ht, hcancelled⟩
    rw [hpublisher] at ht
    cases ht
    cases hcancelled
  · rw [hpublisher]
    rfl

end SharedWorld

end Simulation

end DimensionalMetrics
