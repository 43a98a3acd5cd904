import DimensionalMetrics.Proofs.Publisher.Schedule
import DimensionalMetrics.Proofs.Simulation.Callers
import Mathlib.Order.Nat

/-!
# Runs that keep time

Time passes only while everybody waits, and a timer that goes off is not missed.  In a run that keeps
time, the turns of a task tell when it was first polled, when its ticks started, and when the work of
each was done.  All that is known of a task then follows from how long it worked each time: while it
waits, it is in the pause that these durations lead to.
-/

namespace DimensionalMetrics

namespace Simulation

/-! ### Time -/

/-- Time does not go back.  It passes only while every task waits, and not beyond the instant at
which one of them can go on.  The configuration stays as it is. -/
structure World.OnTime (w w' : World) : Prop where
  config : w'.registry.config = w.registry.config
  forward : w.now ≤ w'.now
  waits : w.now < w'.now → ∀ (task : Nat) (cancelled : Bool) (work : Work),
    w.publisher.tasks[task]? = some ⟨cancelled, .alive work⟩ →
      w.step? cancelled work = none ∧ w'.now ≤ work.wake

theorem World.OnTime.of_now_eq {w w' : World} (hconfig : w'.registry.config = w.registry.config)
    (hnow : w'.now = w.now) : w.OnTime w' :=
  ⟨hconfig, hnow.symm.le, fun hlt => absurd hlt (hnow ▸ Nat.lt_irrefl _)⟩

/-- What a task is doing, or how it has ended, if there is such a task. -/
def World.phase? (w : World) (task : Nat) : Option (Phase Work) :=
  (w.publisher.tasks[task]?).map Task.phase

namespace SharedWorld

/-- A run on one thread that keeps time. -/
inductive TimedRun (s : SharedWorld) : List Turn → SharedWorld → Prop
  | refl : TimedRun s [] s
  | step {turns more : List Turn} {s' s'' : SharedWorld} (h : TimedRun s turns s')
      (hstep : Step true s' more s'') (htime : s'.world.OnTime s''.world) :
      TimedRun s (turns ++ more) s''

variable {s s' : SharedWorld} {turns : List Turn}

theorem TimedRun.single (hstep : Step true s turns s') (htime : s.world.OnTime s'.world) :
    TimedRun s turns s' :=
  .step .refl hstep htime

theorem TimedRun.run (h : TimedRun s turns s') : Run true s turns s' := by
  induction h with
  | refl => exact .refl
  | step _ hstep _ ih => exact .step ih hstep

theorem TimedRun.config (h : TimedRun s turns s') :
    s'.world.registry.config = s.world.registry.config := by
  induction h with
  | refl => rfl
  | step _ _ htime ih => exact htime.config.trans ih

end SharedWorld

/-! ### What turns tell -/

namespace Turn

/-- The instant at which a task is first polled. -/
def first? (u : Turn) : Option Nat := if u.work = .arming then some u.before.now else none

/-- The instant at which a tick starts.  A task that leaves its loop does not start one, nor does one
that cannot tell when the next one is due. -/
def tick? (u : Turn) : Option Nat :=
  match u.work with
  | .waiting t =>
    if u.phase = .ended .finished then none
    else (t.next? u.before.now).map fun _ => u.before.now
  | .arming | .publishing _ _ => none

/-- The instant at which the work of a tick is done and the task waits for the next one. -/
def rest? (u : Turn) : Option Nat :=
  match u.work, u.phase with
  | .waiting _, .alive (.waiting _) | .publishing _ _, .alive (.waiting _) => some u.before.now
  | _, _ => none

end Turn

/-- The instants that the turns of a task tell. -/
def instants (tell? : Turn → Option Nat) (task : Nat) (turns : List Turn) : List Nat :=
  (turns.filter (·.task = task)).filterMap tell?

theorem instants_append (tell? : Turn → Option Nat) (task : Nat) (turns more : List Turn) :
    instants tell? task (turns ++ more) = instants tell? task turns ++ instants tell? task more := by
  rw [instants, List.filter_append, List.filterMap_append, instants, instants]

theorem instants_of_ne {tell? : Turn → Option Nat} {task : Nat} {turns : List Turn}
    (h : ∀ u ∈ turns, u.task ≠ task) : instants tell? task turns = [] := by
  have hnone : turns.filter (·.task = task) = [] :=
    List.filter_eq_nil_iff.mpr fun u hu => by simpa using h u hu
  rw [instants, hnone, List.filterMap_nil]

theorem instants_singleton (tell? : Turn → Option Nat) (u : Turn) :
    instants tell? u.task [u] = (tell? u).toList := by
  cases h : tell? u with
  | none => simp [instants, h]
  | some instant => simp [instants, h]

abbrev polls (task : Nat) (turns : List Turn) : List Nat := instants Turn.first? task turns

abbrev ticks (task : Nat) (turns : List Turn) : List Nat := instants Turn.tick? task turns

abbrev rests (task : Nat) (turns : List Turn) : List Nat := instants Turn.rest? task turns

open Pause in
/-- What a task is doing, under a frequency and at an instant, when it was first polled, when its
ticks started, and when the work of each was done. -/
inductive Keeping (frequency now : Nat) :
    Option (Phase Work) → List Nat → List Nat → List Nat → Prop
  | unborn : Keeping frequency now none [] [] []
  | arming : Keeping frequency now (some (.alive .arming)) [] [] []
  | waiting {start : Nat} {ds : List Nat} {p : Pause} (hp : (first start frequency).afterAll ds = p)
      (hsince : p.since ≤ now) (htick : now ≤ p.tick) :
      Keeping frequency now (some (.alive (.waiting p.ticker))) [start]
        ((first start frequency).ticks ds) ((first start frequency).rests ds)
  | publishing {start : Nat} {ds : List Nat} {p : Pause} {f : Flight}
      (hp : (first start frequency).afterAll ds = p) (htick : p.tick ≤ now) :
      Keeping frequency now (some (.alive (.publishing (p.ticker.after p.tick) f))) [start]
        ((first start frequency).ticks ds ++ [p.tick]) ((first start frequency).rests ds)
  | killed {ending : Ending} : Keeping frequency now (some (.ended ending)) [] [] []
  | ended {start : Nat} {ds last : List Nat} {ending : Ending} (hlast : last.length ≤ 1) :
      Keeping frequency now (some (.ended ending)) [start]
        ((first start frequency).ticks (ds ++ last)) ((first start frequency).rests ds)

namespace Keeping

variable {frequency now start : Nat} {ps ts rs ds : List Nat} {p : Pause}

theorem of_unborn (h : Keeping frequency now none ps ts rs) : ps = [] ∧ ts = [] ∧ rs = [] := by
  cases h
  exact ⟨rfl, rfl, rfl⟩

theorem ended_pausing (ending : Ending) :
    Keeping frequency now (some (.ended ending)) [start] ((Pause.first start frequency).ticks ds)
      ((Pause.first start frequency).rests ds) := by
  have hended : Keeping frequency now (some (.ended ending)) [start]
      ((Pause.first start frequency).ticks (ds ++ [])) ((Pause.first start frequency).rests ds) :=
    .ended (Nat.zero_le 1)
  rwa [List.append_nil] at hended

theorem ended_working (hp : (Pause.first start frequency).afterAll ds = p) (ending : Ending) :
    Keeping frequency now (some (.ended ending)) [start]
      ((Pause.first start frequency).ticks ds ++ [p.tick])
      ((Pause.first start frequency).rests ds) := by
  have hended : Keeping frequency now (some (.ended ending)) [start]
      ((Pause.first start frequency).ticks (ds ++ [0])) ((Pause.first start frequency).rests ds) :=
    .ended (Nat.le_refl 1)
  rwa [Pause.ticks_concat, hp] at hended

/-- A task may end in whatever it was doing. -/
theorem ended_of_alive {work : Work} (h : Keeping frequency now (some (.alive work)) ps ts rs)
    (now' : Nat) (ending : Ending) : Keeping frequency now' (some (.ended ending)) ps ts rs := by
  cases h with
  | arming => exact .killed
  | waiting hp hsince htick => exact ended_pausing ending
  | publishing hp htick => exact ended_working hp ending

/-- Time passes, but not beyond the instant for which a task waits. -/
theorem later {phase? : Option (Phase Work)} {now' : Nat} (h : Keeping frequency now phase? ps ts rs)
    (hforward : now ≤ now')
    (hwaits : now < now' → ∀ work, phase? = some (.alive work) → now' ≤ work.wake) :
    Keeping frequency now' phase? ps ts rs := by
  cases h with
  | unborn => exact .unborn
  | arming => exact .arming
  | @waiting start ds p hp hsince htick =>
    refine .waiting hp (Nat.le_trans hsince hforward) ?_
    rcases Nat.eq_or_lt_of_le hforward with rfl | hlt
    · exact htick
    · exact Nat.le_trans (hwaits hlt _ rfl) p.due_le_tick
  | publishing hp htick => exact .publishing hp (Nat.le_trans htick hforward)
  | killed => exact .killed
  | ended hlast => exact .ended hlast

/-- The work of a tick is done. -/
theorem rested (hp : (Pause.first start frequency).afterAll ds = p) (htick : p.tick ≤ now) :
    Keeping frequency now (some (.alive (.waiting (p.ticker.after p.tick)))) [start]
      ((Pause.first start frequency).ticks ds ++ [p.tick])
      ((Pause.first start frequency).rests ds ++ [now]) := by
  have hnow : p.tick + (now - p.tick) = now := Nat.add_sub_cancel' htick
  have hnext : (Pause.first start frequency).afterAll (ds ++ [now - p.tick]) =
      p.next (now - p.tick) := by
    rw [Pause.afterAll_concat, hp]
  have hsince : (p.next (now - p.tick)).since = now := hnow
  have hwaiting := waiting hnext hsince.le
    (hsince.ge.trans (p.next (now - p.tick)).since_le_tick)
  rwa [Pause.ticks_concat, Pause.rests_concat, hp, hnow] at hwaiting

/-- The work of a tick has come so far. -/
theorem worked (hp : (Pause.first start frequency).afterAll ds = p) {u : Turn}
    (hwork : u.work ≠ .arming) {progress : Progress}
    (hphase : u.phase = World.phaseAfter (p.ticker.after p.tick) progress)
    (htick : p.tick ≤ u.before.now) :
    Keeping frequency u.before.now (some u.phase) [start]
      ((Pause.first start frequency).ticks ds ++ [p.tick])
      ((Pause.first start frequency).rests ds ++ u.rest?.toList) := by
  obtain ⟨task, work, before, after, phase⟩ := u
  dsimp only at hwork hphase htick ⊢
  subst hphase
  cases progress with
  | finished =>
    have hrest : (Turn.mk task work before after
        (.alive (.waiting (p.ticker.after p.tick)))).rest? = some before.now := by
      cases work with
      | arming => exact absurd rfl hwork
      | waiting t => rfl
      | publishing t f => rfl
    rw [World.phaseAfter, hrest]
    exact rested hp htick
  | crashed reason =>
    have hrest : (Turn.mk task work before after (.ended (.crashed reason))).rest? = none := by
      cases work <;> rfl
    rw [World.phaseAfter, hrest, Option.toList_none, List.append_nil]
    exact ended_working hp _
  | flying f =>
    have hrest : (Turn.mk task work before after
        (.alive (.publishing (p.ticker.after p.tick) f))).rest? = none := by
      cases work <;> rfl
    rw [World.phaseAfter, hrest, Option.toList_none, List.append_nil]
    exact publishing hp htick

variable {u : Turn} {cancelled : Bool}

theorem turn_arming (hwork : u.work = .arming)
    (hpoll : u.before.step? cancelled .arming = some (u.after, u.phase)) :
    Keeping u.before.registry.config.frequency.nanos u.before.now (some u.phase)
      u.first?.toList u.tick?.toList u.rest?.toList := by
  obtain ⟨task, work, before, after, phase⟩ := u
  dsimp only at hwork hpoll ⊢
  subst hwork
  rw [World.step?, Option.some.injEq, Prod.mk.injEq] at hpoll
  obtain ⟨-, rfl⟩ := hpoll
  cases hstart : Ticker.start? before.now before.registry.config.frequency with
  | none =>
    have hended : Keeping before.registry.config.frequency.nanos before.now
        (some (.ended (.crashed World.overflow))) [before.now]
        ((Pause.first before.now before.registry.config.frequency.nanos).ticks [])
        ((Pause.first before.now before.registry.config.frequency.nanos).rests []) :=
      ended_pausing _
    exact hended
  | some t =>
    obtain rfl := Ticker.eq_of_start? hstart
    have hfirst : (Pause.first before.now before.registry.config.frequency.nanos).afterAll [] =
        .first before.now before.registry.config.frequency.nanos := rfl
    exact waiting hfirst (Nat.le_refl _) (Pause.first before.now _).since_le_tick

/-- A tick starts at the instant for which the task has waited. -/
theorem turn_waiting (hp : (Pause.first start frequency).afterAll ds = p)
    (hwork : u.work = .waiting p.ticker) (hsince : p.since ≤ u.before.now)
    (htick : u.before.now ≤ p.tick)
    (hpoll : u.before.step? cancelled u.work = some (u.after, u.phase)) :
    Keeping frequency u.before.now (some u.phase) ([start] ++ u.first?.toList)
      ((Pause.first start frequency).ticks ds ++ u.tick?.toList)
      ((Pause.first start frequency).rests ds ++ u.rest?.toList) := by
  have hfirst : u.first? = none := by simp [Turn.first?, hwork]
  rw [hfirst, Option.toList_none, List.append_nil]
  rcases World.step?_cases hpoll with ⟨harming, -⟩ | ⟨-, -, -, hphase⟩ |
    ⟨t, hwork', -, hdue, hstep⟩ | ⟨t, f, hwork', -⟩
  · cases hwork.symm.trans harming
  · have htick' : u.tick? = none := by simp [Turn.tick?, hwork, hphase]
    have hrest : u.rest? = none := by simp [Turn.rest?, hphase]
    rw [htick', hrest, hphase]
    simpa using ended_pausing .finished
  · obtain rfl : p.ticker = t := Work.waiting.inj (hwork.symm.trans hwork')
    -- The clock has not passed the tick, and the task is polled when its timer has gone off.
    have hnow : p.tick = u.before.now := Nat.le_antisymm (Nat.max_le.mpr ⟨hsince, hdue⟩) htick
    have hunfinished : u.phase ≠ .ended .finished := by
      rw [(Prod.mk.inj hstep).2]
      exact World.tick_ne_finished _ _
    cases hnext : p.ticker.next? u.before.now with
    | none =>
      rw [hnext, World.tick, Prod.mk.injEq] at hstep
      have htick' : u.tick? = none := by simp [Turn.tick?, hwork, hnext]
      have hrest : u.rest? = none := by simp [Turn.rest?, hstep.2]
      rw [htick', hrest, hstep.2]
      simpa using ended_pausing _
    | some t' =>
      rw [hnext, World.tick, Prod.mk.injEq, Ticker.eq_after_of_next? hnext, ← hnow] at hstep
      have htick' : u.tick? = some p.tick := by
        simp [Turn.tick?, hwork, hunfinished, hnext, hnow]
      rw [htick', Option.toList_some]
      exact worked hp (by simp [hwork]) hstep.2 hnow.le
  · cases hwork.symm.trans hwork'

theorem turn_publishing {f : Flight} (hp : (Pause.first start frequency).afterAll ds = p)
    (hwork : u.work = .publishing (p.ticker.after p.tick) f) (htick : p.tick ≤ u.before.now)
    (hpoll : u.before.step? cancelled u.work = some (u.after, u.phase)) :
    Keeping frequency u.before.now (some u.phase) ([start] ++ u.first?.toList)
      ((Pause.first start frequency).ticks ds ++ [p.tick] ++ u.tick?.toList)
      ((Pause.first start frequency).rests ds ++ u.rest?.toList) := by
  have hfirst : u.first? = none := by simp [Turn.first?, hwork]
  have htick' : u.tick? = none := by simp [Turn.tick?, hwork]
  rw [hfirst, htick', Option.toList_none, List.append_nil, List.append_nil]
  rcases World.step?_cases hpoll with ⟨harming, -⟩ | ⟨-, -, -, hphase⟩ | ⟨t, hwork', -⟩ |
    ⟨t, f', hwork', -, -, -, hphase⟩
  · cases hwork.symm.trans harming
  · have hrest : u.rest? = none := by simp [Turn.rest?, hphase]
    rw [hrest, hphase, Option.toList_none, List.append_nil]
    exact ended_working hp _
  · cases hwork.symm.trans hwork'
  · obtain ⟨rfl, -⟩ := Work.publishing.inj (hwork.symm.trans hwork')
    exact worked hp (by simp [hwork]) hphase htick

/-- **What a turn tells of a task is what the task does in it.** -/
theorem turn (h : Keeping u.before.registry.config.frequency.nanos u.before.now
      (some (.alive u.work)) ps ts rs)
    (hpoll : u.before.step? cancelled u.work = some (u.after, u.phase)) :
    Keeping u.before.registry.config.frequency.nanos u.before.now (some u.phase)
      (ps ++ u.first?.toList) (ts ++ u.tick?.toList) (rs ++ u.rest?.toList) := by
  generalize hwork : u.work = work at h
  cases h with
  | arming =>
    rw [hwork] at hpoll
    exact turn_arming hwork hpoll
  | waiting hp hsince htick => exact turn_waiting hp hwork hsince htick hpoll
  | publishing hp htick => exact turn_publishing hp hwork htick hpoll

end Keeping

/-! ### Steps and runs -/

namespace SharedWorld

variable {s s' : SharedWorld} {turns more : List Turn} {task : Nat}

/-- What is known of a task from its turns. -/
def Keeps (s : SharedWorld) (turns : List Turn) (task : Nat) : Prop :=
  Keeping s.world.registry.config.frequency.nanos s.world.now (s.world.phase? task)
    (polls task turns) (ticks task turns) (rests task turns)

theorem Keeps.step (h : s.Keeps turns task) (hstep : Step true s more s')
    (htime : s.world.OnTime s'.world) : s'.Keeps (turns ++ more) task := by
  rw [Keeps, polls, ticks, rests] at h ⊢
  rw [htime.config, instants_append, instants_append, instants_append]
  cases hstep.change task with
  | absent hturns hbefore hafter =>
    rw [instants_of_ne hturns, instants_of_ne hturns, instants_of_ne hturns, List.append_nil,
      List.append_nil, List.append_nil]
    rw [World.phase?, hbefore, Option.map_none] at h
    rw [World.phase?, hafter, Option.map_none]
    exact h.later htime.forward nofun
  | @kept t t' hturns hbefore hafter hphase hcancelled =>
    rw [instants_of_ne hturns, instants_of_ne hturns, instants_of_ne hturns, List.append_nil,
      List.append_nil, List.append_nil]
    rw [World.phase?, hbefore, Option.map_some] at h
    rw [World.phase?, hafter, Option.map_some, hphase]
    refine h.later htime.forward fun hlt work hwork => ?_
    obtain ⟨cancelled, phase⟩ := t
    obtain rfl : phase = .alive work := Option.some.inj hwork
    exact (htime.waits hlt task cancelled work hbefore).2
  | spawned hturns hbefore hafter =>
    subst hturns
    rw [World.phase?, hbefore, Option.map_none] at h
    obtain ⟨hpolls, hticks, hrests⟩ := h.of_unborn
    rw [World.phase?, hafter, Option.map_some, hpolls, hticks, hrests]
    exact .arming
  | @turned u cancelled hturns htask hworld hbefore hafter hnow hleave hpoll =>
    subst hturns htask
    have hsame := (World.step?_frame (hpoll rfl)).2.1
    rw [World.phase?, hbefore, Option.map_some] at h
    rw [instants_singleton, instants_singleton, instants_singleton, World.phase?, hafter,
      Option.map_some, hnow, hsame]
    have hpoll' := hpoll rfl
    rw [← hworld] at h hpoll' ⊢
    exact h.turn hpoll'
  | killed hturns hbefore hafter =>
    subst hturns
    rw [World.phase?, hbefore, Option.map_some] at h
    rw [World.phase?, hafter, Option.map_some]
    simpa [instants] using h.ended_of_alive s'.world.now _

theorem TimedRun.keeps (hrun : TimedRun s turns s') (h : s.Keeps [] task) :
    s'.Keeps turns task := by
  induction hrun with
  | refl => exact h
  | step _ hstep htime ih => exact ih.step hstep htime

theorem keeps_of_new (h : s.world.publisher.tasks.length ≤ task) : s.Keeps [] task := by
  have hnone : s.world.phase? task = none := by
    rw [World.phase?, List.getElem?_eq_none h, Option.map_none]
  rw [Keeps, hnone]
  exact .unborn

end SharedWorld

end Simulation

end DimensionalMetrics
