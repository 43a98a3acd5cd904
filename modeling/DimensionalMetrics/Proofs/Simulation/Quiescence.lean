import DimensionalMetrics.Proofs.Simulation.Callers

/-!
# Nothing goes on after a stop

A caller that stops the publisher may be the one that asks the task to end or one that finds it
asked already, and may give up at any time.  What it can rely on is the same: when it returns, no
task that was spawned before it came takes another turn.  On one thread more is true, because a task
looks whether it was asked to end before anything else: from the first moment of the stop on it
begins nothing, even if nobody waits for it any more.
-/

namespace DimensionalMetrics

namespace Simulation

open SharedWorld

/-- A turn that begins no tick, measures no meter and makes no request: the world stays as it is,
and the task ends unless it still has to set up its first ticker. -/
def Turn.Quiet (t : Turn) : Prop :=
  t.after = t.before ∧
    (t.phase = .ended .finished ∨ t.work = .arming ∧ ∃ first, t.phase = World.armed first)

namespace SharedWorld

variable {oneThread : Bool} {s s' : SharedWorld} {turns : List Turn}

/-- An ended task takes no turns. -/
theorem Step.task_ne (hstep : Step oneThread s turns s') {task : Nat}
    (hended : s.world.publisher.hasEnded task = true) : ∀ t ∈ turns, t.task ≠ task := by
  cases hstep.change task with
  | absent hturns hbefore hafter => exact hturns
  | kept hturns hbefore hafter hphase hcancelled => exact hturns
  | spawned hturns hbefore hafter =>
    subst hturns
    exact List.forall_mem_nil _
  | turned hturns htask hworld hbefore hafter hnow hleave hpoll =>
    exact absurd ⟨_, _, hbefore⟩ (Lifecycle.not_lives_of_hasEnded hended)
  | killed hturns hbefore hafter =>
    subst hturns
    exact List.forall_mem_nil _

theorem Run.task_ne (hrun : Run oneThread s turns s') {task : Nat}
    (hended : s.world.publisher.hasEnded task = true) : ∀ t ∈ turns, t.task ≠ task := by
  induction hrun with
  | refl =>
    intro t ht
    cases ht
  | step hbefore hstep ih =>
    intro t ht
    rcases List.mem_append.mp ht with ht | ht
    · exact ih t ht
    · exact hstep.task_ne (hbefore.leads.hasEnded hended) t ht

/-- A task that was asked to end has only quiet turns, if a turn is one step of it. -/
theorem Step.quiet (hstep : Step true s turns s') {task : Nat}
    (hcancelled : s.world.publisher.Cancelled task) : ∀ t ∈ turns, t.task = task → t.Quiet := by
  intro t ht htask
  cases hstep.change task with
  | absent hturns hbefore hafter => exact absurd htask (hturns t ht)
  | kept hturns hbefore hafter hphase hcancelled => exact absurd htask (hturns t ht)
  | spawned hturns hbefore hafter =>
    subst hturns
    cases ht
  | @turned u cancelled hturns _ hworld hbefore hafter hnow hleave hpoll =>
    subst hturns
    obtain rfl := List.mem_singleton.mp ht
    obtain ⟨t', ht', hc⟩ := hcancelled
    obtain rfl : t' = ⟨cancelled, .alive t.work⟩ := Option.some.inj (ht'.symm.trans hbefore)
    obtain rfl : cancelled = true := hc
    obtain ⟨phase, hphase, hcases⟩ := s.world.step?_cancelled t.work
    have hstep := (hpoll rfl).symm.trans hphase
    simp only [Option.some.injEq, Prod.mk.injEq] at hstep
    obtain ⟨hafter, rfl⟩ := hstep
    exact ⟨hafter.trans hworld.symm, hcases⟩
  | killed hturns hbefore hafter =>
    subst hturns
    cases ht

theorem Run.quiet (hrun : Run true s turns s') {task : Nat}
    (hcancelled : s.world.publisher.Cancelled task) : ∀ t ∈ turns, t.task = task → t.Quiet := by
  induction hrun with
  | refl =>
    intro t ht
    cases ht
  | step hbefore hstep ih =>
    intro t ht
    rcases List.mem_append.mp ht with ht | ht
    · exact ih t ht
    · exact hstep.quiet (hbefore.leads.cancelled hcancelled) t ht

/-- The shared world after a caller has begun to stop the publisher. -/
def stopping (s : SharedWorld) : SharedWorld :=
  ⟨s.world.beginStop.1, s.world.beginStop.2 :: s.stops⟩

theorem leads_stopping (s : SharedWorld) : s.world.publisher.Leads s.stopping.world.publisher :=
  Lifecycle.Leads.beginStop s.world.publisher

/-- **A stop leaves nothing under way.**  When a caller returns from it, every task that was there
when it began has ended, and whatever happens from then on, all turns are those of newer tasks.
With everybody on one thread the task that lives when a stop begins has only quiet turns from then
on, whether or not anybody waits for it. -/
theorem nothing_under_way_after_stop {w : World} (hw : w.publisher = .new)
    (hrun : Run oneThread ⟨w, []⟩ turns s) :
    (∀ turns' s' w', Run oneThread s.stopping turns' s' →
      s'.world.resume? s.world.beginStop.2 = some w' →
        (∀ task < s.world.publisher.tasks.length, w'.publisher.hasEnded task = true) ∧
          ∀ stops turns'' s'', Run oneThread ⟨w', stops⟩ turns'' s'' →
            ∀ t ∈ turns'', s.world.publisher.tasks.length ≤ t.task) ∧
      (oneThread = true → ∀ task, s.world.publisher.Lives task →
        ∀ turns' s', Run oneThread s.stopping turns' s' →
          ∀ t ∈ turns', t.task = task → t.Quiet) := by
  have htracked : s.world.publisher.Tracked := hrun.tracked (hw ▸ Lifecycle.tracked_new)
  have hasked : s.world.publisher.Asked :=
    hrun.asked (hw ▸ Lifecycle.tracked_new) (hw ▸ Lifecycle.asked_new)
  constructor
  · intro turns' s' w' hlater hreturn
    obtain ⟨⟨publisher, notices⟩, hpublisher, rfl⟩ := Option.map_eq_some_iff.mp hreturn
    have hleads : s'.world.publisher.Leads publisher := by
      apply Lifecycle.Leads.of_tasks_eq
      rcases Lifecycle.resume?_cases hpublisher with rfl | ⟨t, -, -, rfl⟩
      · rfl
      · rfl
    have hended : ∀ task < s.world.publisher.tasks.length, publisher.hasEnded task = true := by
      intro task htask
      apply hleads.hasEnded
      exact htracked.hasEnded_of_return (s.leads_stopping.trans hlater.leads) hpublisher htask
    refine ⟨hended, ?_⟩
    intro stops turns'' s'' hafter t ht
    apply Nat.le_of_not_lt
    intro hlt
    exact hafter.task_ne (hended t.task hlt) t ht rfl
  · rintro rfl task hlives turns' s' hlater
    exact hlater.quiet (hasked.cancelled_beginStop htracked hlives)

/-- A request is on its way when a caller stops the publisher and gives up; the one that comes after
it returns once the task has ended. -/
theorem nothing_under_way_after_second_stop :
    let r : Registry := ⟨{ uri := "unix:/run/backend" }, by decide,
      [⟨.ofTags "requests" .empty, .counter 1⟩]⟩
    let w : World := ⟨r, none, .scripted [⟨60000, .outcome .accepted⟩], 0, .new, #[]⟩
    let sending : World := (w.start true).1.advanceTo (5000 * millisecond)
    let s : SharedWorld := ⟨sending.beginStop.1, []⟩
    (∃ turns, Run true ⟨w, []⟩ turns s) ∧ sending.events.size = 3 ∧ s.world.publisher.Lives 0 ∧
      s.world.beginStop.2 = .following 0 ∧
      (∃ turns s' w', Run true s.stopping turns s' ∧
        s'.world.resume? s.world.beginStop.2 = some w' ∧ w'.publisher.hasEnded 0 = true) ∧
      ∀ turns s', Run true s.stopping turns s' → ∀ t ∈ turns, t.task = 0 → t.Quiet := by
  intro r w sending s
  have hgivenUp : ∀ (v : World) (limit : Nat), ∃ turns,
      Run true ⟨v, []⟩ turns ⟨((v.start true).1.advanceTo limit).beginStop.1, []⟩ := by
    intro v limit
    obtain ⟨turns, htime⟩ := run_advanceTo (v.start true).1 limit []
    exact ⟨_, ((Run.single (.start true)).trans htime).trans (run_givenUp _ [])⟩
  obtain ⟨turns, hrun⟩ : ∃ turns, Run true ⟨w, []⟩ turns s := hgivenUp w (5000 * millisecond)
  have hsent : sending.events.size = 3 := by decide +kernel
  have hlength : s.world.publisher.tasks.length = 1 := by decide +kernel
  have hliving : s.world.publisher.living?.isSome = true := by decide +kernel
  have hfollowing : s.world.beginStop.2 = .following 0 := by decide +kernel
  have hreturned : (s.stopping.world.settle.resume? s.world.beginStop.2).isSome = true := by
    decide +kernel
  have htheorem := nothing_under_way_after_stop rfl hrun
  -- From here on nothing more is computed.
  clear_value s
  have hlives : s.world.publisher.Lives 0 := by
    obtain ⟨⟨task, cancelled, work⟩, hliving⟩ := Option.isSome_iff_exists.mp hliving
    have htask := Lifecycle.getElem?_of_living? hliving
    obtain ⟨hlt, -⟩ := List.getElem?_eq_some_iff.mp htask
    obtain rfl : task = 0 := by omega
    exact ⟨cancelled, work, htask⟩
  obtain ⟨turns', hlater⟩ := run_settle s.stopping
  obtain ⟨w', hw'⟩ := Option.isSome_iff_exists.mp hreturned
  have hended : w'.publisher.hasEnded 0 = true :=
    (htheorem.1 _ _ w' hlater hw').1 0 (by omega)
  exact ⟨⟨_, hrun⟩, hsent, hlives, hfollowing, ⟨_, _, w', hlater, hw', hended⟩,
    htheorem.2 rfl 0 hlives⟩

end SharedWorld

end Simulation

end DimensionalMetrics
