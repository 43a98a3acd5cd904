import DimensionalMetrics.Proofs.Publisher.Endings
import DimensionalMetrics.Proofs.Simulation.Tasks

/-!
# A world under many callers

Callers start and stop the publisher of a world while its task takes turns, and anything else may
happen in the world in between: meters are updated and measured, time passes, the backend and the
predicate change their minds.  A `Run` is any interleaving of all that, together with the turns that
tasks took.

There are two ways to read a turn.  With everybody on one thread a turn is one step of the task,
which begins by looking whether the task was asked to end.  Otherwise a turn may be any part of what
a task does, however small, because callers can come in between; then nothing is known of it but
that a task does not leave its loop before it was asked to.
-/

namespace DimensionalMetrics

namespace Simulation

/-! ### How a task leaves its loop -/

namespace World

/-- A task that was asked to end leaves the world as it is: it ends, or sets up its ticker if it has
not done so yet. -/
theorem step?_cancelled (w : World) (work : Work) :
    ∃ phase, w.step? true work = some (w, phase) ∧
      (phase = .ended .finished ∨ work = .arming ∧ ∃ first, phase = armed first) := by
  cases work with
  | arming =>
    refine ⟨armed (Ticker.start? w.now w.registry.config.frequency), ?_, .inr ⟨rfl, _, rfl⟩⟩
    rw [step?]
  | waiting t =>
    refine ⟨.ended .finished, ?_, .inl rfl⟩
    rw [step?, if_pos rfl]
  | publishing t f =>
    refine ⟨.ended .finished, ?_, .inl rfl⟩
    rw [step?, if_pos rfl]

theorem armed_ne_finished (first : Option Ticker) : armed first ≠ .ended .finished := by
  cases first with
  | none => simp [armed]
  | some t => simp [armed]

theorem phaseAfter_ne_finished (t : Ticker) (p : Progress) : phaseAfter t p ≠ .ended .finished := by
  cases p with
  | finished => simp [phaseAfter]
  | crashed reason => simp [phaseAfter]
  | flying f => simp [phaseAfter]

theorem tick_ne_finished (w : World) (next : Option Ticker) :
    (w.tick next).2 ≠ .ended .finished := by
  cases next with
  | none => simp [tick]
  | some t => exact phaseAfter_ne_finished t _

/-- A task that was not asked to end goes on, or crashes. -/
theorem cancelled_of_finished {w w' : World} {cancelled : Bool} {work : Work} {phase : Phase Work}
    (hstep : w.step? cancelled work = some (w', phase)) (hphase : phase = .ended .finished) :
    cancelled = true := by
  subst hphase
  rcases step?_cases hstep with ⟨-, -, harmed⟩ | ⟨-, hcancelled, -, -⟩ | ⟨t, -, -, -, htick⟩ |
    ⟨t, f, -, -, -, -, hlanded⟩
  · exact absurd harmed.symm (armed_ne_finished _)
  · exact hcancelled
  · exact absurd (congrArg Prod.snd htick).symm (tick_ne_finished w _)
  · exact absurd hlanded.symm (phaseAfter_ne_finished t _)

end World

/-! ### Steps and runs -/

structure SharedWorld where
  world : World
  stops : List StopCall

/-- What a task was doing, and what it does now.  The two worlds have the same publisher: that the
task has gone on is not yet known in the second one. -/
structure Turn where
  task : Nat
  work : Work
  before : World
  after : World
  phase : Phase Work

namespace SharedWorld

inductive Step (oneThread : Bool) : SharedWorld → List Turn → SharedWorld → Prop
  /-- Whatever does not concern the publisher. -/
  | outside {s : SharedWorld} {w : World} (hsame : w.publisher = s.world.publisher) :
      Step oneThread s [] ⟨w, s.stops⟩
  | start {s : SharedWorld} (canSpawn : Bool) :
      Step oneThread s [] ⟨(s.world.start canSpawn).1, s.stops⟩
  | beginStop {s : SharedWorld} :
      Step oneThread s [] ⟨s.world.beginStop.1, s.world.beginStop.2 :: s.stops⟩
  | resume {s : SharedWorld} {before after : List StopCall} {call : StopCall} {w : World}
      (hcall : s.stops = before ++ call :: after) (hreturn : s.world.resume? call = some w) :
      Step oneThread s [] ⟨w, before ++ after⟩
  | abandon {s : SharedWorld} {before after : List StopCall} {call : StopCall}
      (hcall : s.stops = before ++ call :: after) : Step oneThread s [] ⟨s.world, before ++ after⟩
  | turn {s : SharedWorld} {t : Turn} {cancelled : Bool} (hbefore : t.before = s.world)
      (hlives : s.world.publisher.tasks[t.task]? = some ⟨cancelled, .alive t.work⟩)
      (hsame : t.after.publisher = s.world.publisher)
      (hleave : t.phase = .ended .finished → cancelled = true)
      (hpoll : oneThread = true → s.world.step? cancelled t.work = some (t.after, t.phase)) :
      Step oneThread s [t]
        ⟨{ t.after with publisher := t.after.publisher.proceed t.task t.phase }, s.stops⟩
  /-- A task dies of something that is not its own: a log that fails, a runtime that is shut
  down. -/
  | crash {s : SharedWorld} {task : Nat} (reason : String) (hlives : s.world.publisher.Lives task) :
      Step oneThread s []
        ⟨{ s.world with publisher := s.world.publisher.proceed task (.ended (.crashed reason)) },
          s.stops⟩

inductive Run (oneThread : Bool) (s : SharedWorld) : List Turn → SharedWorld → Prop
  | refl : Run oneThread s [] s
  | step {turns more : List Turn} {s' s'' : SharedWorld} (h : Run oneThread s turns s')
      (hstep : Step oneThread s' more s'') : Run oneThread s (turns ++ more) s''

variable {oneThread : Bool} {s s' s'' : SharedWorld} {turns more : List Turn}

theorem Run.trans (h : Run oneThread s turns s') (h' : Run oneThread s' more s'') :
    Run oneThread s (turns ++ more) s'' := by
  induction h' with
  | refl => simpa using h
  | step _ hstep ih =>
    rw [← List.append_assoc]
    exact .step ih hstep

theorem Run.single (hstep : Step oneThread s turns s') : Run oneThread s turns s' :=
  .step .refl hstep

/-! ### The publisher of a shared world is a shared publisher -/

def shared (s : SharedWorld) : SharedPublisher Work := s.world.shared s.stops

theorem Step.shared (hstep : Step oneThread s turns s') :
    SharedPublisher.Run s.shared s'.shared := by
  cases hstep with
  | @outside w hsame =>
    have heq : SharedWorld.shared ⟨w, s.stops⟩ = s.shared := by
      simp only [SharedWorld.shared, World.shared, hsame]
    rw [heq]
    exact .refl
  | start canSpawn => exact World.run_start s.stops s.world canSpawn
  | beginStop => exact World.run_beginStop s.stops s.world
  | @resume before after call w hcall hreturn =>
    obtain ⟨⟨publisher, notices⟩, hpublisher, rfl⟩ := Option.map_eq_some_iff.mp hreturn
    exact .step .refl (.resume hcall hpublisher)
  | abandon hcall => exact .step .refl (.abandon hcall)
  | @turn t cancelled hbefore hlives hsame hleave hpoll =>
    simp only [SharedWorld.shared, World.shared, hsame]
    exact .step .refl (.proceed t.phase ⟨cancelled, t.work, hlives⟩)
  | crash reason hlives => exact .step .refl (.proceed _ hlives)

theorem Run.shared (hrun : Run oneThread s turns s') : SharedPublisher.Run s.shared s'.shared := by
  induction hrun with
  | refl => exact .refl
  | step _ hstep ih => exact ih.trans hstep.shared

/-! ### What is known of the tasks of a world -/

theorem Run.leads (hrun : Run oneThread s turns s') : s.world.publisher.Leads s'.world.publisher :=
  hrun.shared.leads

theorem Run.tracked (hrun : Run oneThread s turns s') (h : s.world.publisher.Tracked) :
    s'.world.publisher.Tracked :=
  hrun.shared.tracked h

theorem Run.asked (hrun : Run oneThread s turns s') (htracked : s.world.publisher.Tracked)
    (h : s.world.publisher.Asked) : s'.world.publisher.Asked :=
  hrun.shared.asked htracked h

/-- What one step does to a task. -/
inductive Change (oneThread : Bool) (s : SharedWorld) (turns : List Turn) (s' : SharedWorld)
    (task : Nat) : Prop
  | absent (hturns : ∀ u ∈ turns, u.task ≠ task)
      (hbefore : s.world.publisher.tasks[task]? = none)
      (hafter : s'.world.publisher.tasks[task]? = none)
  | kept {t t' : Task Work} (hturns : ∀ u ∈ turns, u.task ≠ task)
      (hbefore : s.world.publisher.tasks[task]? = some t)
      (hafter : s'.world.publisher.tasks[task]? = some t') (hphase : t'.phase = t.phase)
      (hcancelled : t.cancelled = true → t'.cancelled = true)
  | spawned (hturns : turns = []) (hbefore : s.world.publisher.tasks[task]? = none)
      (hafter : s'.world.publisher.tasks[task]? = some ⟨false, .alive .arming⟩)
  | turned {u : Turn} {cancelled : Bool} (hturns : turns = [u]) (htask : u.task = task)
      (hworld : u.before = s.world)
      (hbefore : s.world.publisher.tasks[task]? = some ⟨cancelled, .alive u.work⟩)
      (hafter : s'.world.publisher.tasks[task]? = some ⟨cancelled, u.phase⟩)
      (hnow : s'.world.now = u.after.now)
      (hleave : u.phase = .ended .finished → cancelled = true)
      (hpoll : oneThread = true → s.world.step? cancelled u.work = some (u.after, u.phase))
  | killed {cancelled : Bool} {work : Work} {reason : String} (hturns : turns = [])
      (hbefore : s.world.publisher.tasks[task]? = some ⟨cancelled, .alive work⟩)
      (hafter : s'.world.publisher.tasks[task]? = some ⟨cancelled, .ended (.crashed reason)⟩)

theorem Change.of_eq {task : Nat} (hturns : ∀ u ∈ turns, u.task ≠ task)
    (h : s'.world.publisher.tasks[task]? = s.world.publisher.tasks[task]?) :
    Change oneThread s turns s' task := by
  cases hbefore : s.world.publisher.tasks[task]? with
  | none => exact .absent hturns hbefore (h.trans hbefore)
  | some t => exact .kept hturns hbefore (h.trans hbefore) rfl id

/-- **What a step can do to a task**, one case for each. -/
theorem Step.change (hstep : Step oneThread s turns s') (task : Nat) :
    Change oneThread s turns s' task := by
  cases hstep with
  | outside hsame =>
    exact .of_eq (List.forall_mem_nil _) (congrArg (·.tasks[task]?) hsame)
  | start canSpawn =>
    cases hstart : s.world.publisher.start canSpawn .arming with
    | error e =>
      refine .of_eq (List.forall_mem_nil _) ?_
      simp only [World.start, hstart]
    | ok publisher =>
      obtain ⟨-, -, rfl⟩ := Lifecycle.start_cases hstart
      have hafter : (s.world.start canSpawn).1.publisher.tasks[task]? =
          if task = s.world.publisher.tasks.length then some ⟨false, .alive .arming⟩
          else s.world.publisher.tasks[task]? := by
        rw [← Lifecycle.getElem?_spawn]
        simp only [World.start, hstart]
        rfl
      by_cases htask : task = s.world.publisher.tasks.length
      · subst htask
        exact .spawned rfl (List.getElem?_eq_none (Nat.le_refl _)) (hafter.trans (if_pos rfl))
      · exact .of_eq (List.forall_mem_nil _) (hafter.trans (if_neg htask))
  | beginStop =>
    rcases s.world.publisher.beginStop_cases with hsame | ⟨i, -, hasked⟩
    · exact .of_eq (List.forall_mem_nil _) (congrArg (·.tasks[task]?) hsame)
    · have hafter : s.world.beginStop.1.publisher.tasks[task]? =
          (s.world.publisher.tasks[task]?).map
            fun t => if i = task then { t with cancelled := true } else t :=
        (congrArg (·.tasks[task]?) hasked).trans (List.getElem?_modify _ _ _ _)
      cases hbefore : s.world.publisher.tasks[task]? with
      | none => exact .absent (List.forall_mem_nil _) hbefore (by rw [hafter, hbefore]; rfl)
      | some t =>
        refine .kept (List.forall_mem_nil _) hbefore (by rw [hafter, hbefore]; rfl) ?_ ?_
        · split <;> rfl
        · split
          · exact fun _ => rfl
          · exact id
  | resume hcall hreturn =>
    obtain ⟨⟨publisher, notices⟩, hpublisher, rfl⟩ := Option.map_eq_some_iff.mp hreturn
    refine .of_eq (List.forall_mem_nil _) ?_
    rcases Lifecycle.resume?_cases hpublisher with rfl | ⟨i, -, -, rfl⟩
    · rfl
    · rfl
  | abandon hcall => exact .of_eq (List.forall_mem_nil _) rfl
  | @turn u cancelled hbefore hlives hsame hleave hpoll =>
    by_cases htask : u.task = task
    · subst htask
      refine .turned rfl rfl hbefore hlives ?_ rfl hleave hpoll
      simp [Lifecycle.proceed, Lifecycle.modify, hsame, hlives]
    · refine .of_eq ?_ ?_
      · intro u' hu'
        rw [List.mem_singleton.mp hu']
        exact htask
      · simp [Lifecycle.proceed, Lifecycle.modify, hsame, htask]
  | @crash i reason hlives =>
    obtain ⟨cancelled, work, hi⟩ := hlives
    by_cases htask : i = task
    · subst htask
      have hafter : (s.world.publisher.proceed i (.ended (.crashed reason))).tasks[i]? =
          some ⟨cancelled, .ended (.crashed reason)⟩ := by
        simp [Lifecycle.proceed, Lifecycle.modify, hi]
      exact .killed rfl hi hafter
    · refine .of_eq (List.forall_mem_nil _) ?_
      simp [Lifecycle.proceed, Lifecycle.modify, htask]

/-- One step of the task that is next is a turn. -/
theorem step_living {w w' : World} {task : Nat} {cancelled : Bool} {work : Work}
    {phase : Phase Work} (stops : List StopCall)
    (hliving : w.publisher.living? = some (task, cancelled, work))
    (hstep : w.step? cancelled work = some (w', phase)) :
    Step true ⟨w, stops⟩ [⟨task, work, w, w', phase⟩]
      ⟨{ w' with publisher := w'.publisher.proceed task phase }, stops⟩ :=
  .turn (s := ⟨w, stops⟩) (t := ⟨task, work, w, w', phase⟩) rfl
    (Lifecycle.getElem?_of_living? hliving) (World.step?_frame hstep).1
    (World.cancelled_of_finished hstep) fun _ => hstep

/-- **To let time pass is a run on one thread.**  The tasks take turns, one step each, and the clock
goes on when the task that is next has to wait. -/
theorem run_runUntil (fuel limit : Nat) (w : World) (stops : List StopCall) :
    ∃ turns, Run true ⟨w, stops⟩ turns ⟨w.runUntil fuel limit, stops⟩ := by
  fun_induction World.runUntil fuel limit w with
  | case1 => exact ⟨_, .single (.outside rfl)⟩
  | case2 => exact ⟨_, .single (.outside rfl)⟩
  | case3 w fuel task cancelled work hliving w' phase hstep ih =>
    obtain ⟨turns, hrest⟩ := ih
    exact ⟨_, (Run.single (step_living stops hliving hstep)).trans hrest⟩
  | case4 w fuel task cancelled work hliving hstep hdue ih =>
    obtain ⟨turns, hrest⟩ := ih
    have hwait : Step true ⟨w, stops⟩ [] ⟨{ w with now := max w.now work.wake }, stops⟩ :=
      .outside rfl
    exact ⟨_, (Run.single hwait).trans hrest⟩
  | case5 => exact ⟨_, .single (.outside rfl)⟩

theorem run_advanceTo (w : World) (limit : Nat) (stops : List StopCall) :
    ∃ turns, Run true ⟨w, stops⟩ turns ⟨w.advanceTo limit, stops⟩ := by
  rw [World.advanceTo]
  exact run_runUntil _ _ w stops

theorem run_settle (s : SharedWorld) : ∃ turns, Run true s turns ⟨s.world.settle, s.stops⟩ := by
  rw [World.settle]
  exact run_advanceTo s.world s.world.now s.stops

/-- A caller may give up at once. -/
theorem run_givenUp (w : World) (stops : List StopCall) :
    Run oneThread ⟨w, stops⟩ [] ⟨w.beginStop.1, stops⟩ := by
  have hgivenUp : Step oneThread ⟨w.beginStop.1, w.beginStop.2 :: stops⟩ []
      ⟨w.beginStop.1, [] ++ stops⟩ := .abandon rfl
  exact (Run.single .beginStop).step hgivenUp

end SharedWorld

end Simulation

end DimensionalMetrics
