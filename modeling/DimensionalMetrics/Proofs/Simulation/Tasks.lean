import DimensionalMetrics.Proofs.Publisher.Callers
import DimensionalMetrics.Proofs.Registry.Orders
import DimensionalMetrics.Simulation.World

/-!
# The publisher of a world

A world changes its publisher only by the steps that callers and tasks can make: whatever is started,
stopped, abandoned or waited for in it is a run of the shared publisher.  What a task does by itself
is to use up answers, to take from the meters, and to be seen; it leaves all else alone, the publisher
and the clock among it.
-/

namespace DimensionalMetrics

/-- The first task that lives, with what it is doing. -/
theorem Lifecycle.getElem?_of_living? {α : Type} {l : Lifecycle α} {task : Nat} {cancelled : Bool}
    {work : α} (h : l.living? = some (task, cancelled, work)) :
    l.tasks[task]? = some ⟨cancelled, .alive work⟩ := by
  obtain ⟨⟨⟨cancelled', phase⟩, i⟩, hmem, hi⟩ := List.exists_of_findSome?_eq_some h
  have hget := List.mem_zipIdx_iff_getElem?.mp hmem
  cases phase with
  | alive work' =>
    simp only [Option.some.injEq, Prod.mk.injEq] at hi
    obtain ⟨rfl, rfl, rfl⟩ := hi
    exact hget
  | ended ending => cases hi

/-- To publish leaves the configuration as it is. -/
theorem Registry.config_beginPublish (r : Registry) (o : r.Order) (permission : Option Permission) :
    (r.beginPublish o permission).1.config = r.config := by
  have hswept : (r.sweepAlong o).1.config = r.config := by rw [sweepAlong_fst, config_sweep]
  rw [beginPublish]
  split
  · rw [publishFreely]
    dsimp only
    split <;> exact hswept
  · rfl
  · rfl

namespace SharedPublisher

variable {α : Type} {s s' s'' : SharedPublisher α}

theorem Run.trans (h : Run s s') (h' : Run s' s'') : Run s s'' := by
  induction h' with
  | refl => exact h
  | step _ hstep ih => exact ih.step hstep

end SharedPublisher

namespace Simulation.World

open SharedPublisher

/-! ### What a task changes -/

theorem send_frame (w : World) (c : Call) :
    (w.send c).1 = { w with backend := (w.send c).1.backend, events := (w.send c).1.events } := by
  unfold send
  split <;> rfl

/-- To send payloads is to use up answers, and to be seen. -/
theorem pursue_frame (w : World) (d : Delivery) :
    (w.pursue d).1 =
      { w with backend := (w.pursue d).1.backend, events := (w.pursue d).1.events } := by
  fun_induction pursue w d with
  | case1 => rfl
  | case2 w d payload rest _ w' answer hsend _ reason _ =>
    have hframe := send_frame w (d.call payload)
    rwa [hsend] at hframe
  | case3 w d payload rest _ w' answer hsend _ o _ ih =>
    have hframe := send_frame w (d.call payload)
    rw [hsend] at hframe
    dsimp only at hframe
    generalize ((w'.say (d.remarks payload o)).pursue (d.settle payload rest o)).1 = v at ih ⊢
    rw [hframe] at ih
    exact ih
  | case4 w d payload rest _ w' answer hsend _ =>
    have hframe := send_frame w (d.call payload)
    rwa [hsend] at hframe

theorem land_frame (w : World) (f : Flight) :
    (w.land f).1 = { w with backend := (w.land f).1.backend, events := (w.land f).1.events } := by
  unfold land
  split
  · rfl
  · exact pursue_frame _ _
  · exact pursue_frame _ _

/-- To publish is also to take from the meters. -/
theorem publish_frame (w : World) :
    w.publish.1 = { w with
      registry := (w.registry.beginPublish w.registry.ownOrder w.permission).1
      backend := w.publish.1.backend
      events := w.publish.1.events } := by
  unfold publish
  dsimp only
  split
  · rfl
  · rfl
  · exact pursue_frame _ _

theorem now_land (w : World) (f : Flight) : (w.land f).1.now = w.now := by rw [land_frame]

theorem now_publish (w : World) : w.publish.1.now = w.now := by rw [publish_frame]

/-- What a step of a task can be. -/
theorem step?_cases {w w' : World} {cancelled : Bool} {work : Work} {phase : Phase Work}
    (h : w.step? cancelled work = some (w', phase)) :
    (work = .arming ∧ w' = w ∧
        phase = armed (Ticker.start? w.now w.registry.config.frequency)) ∨
      (work ≠ .arming ∧ cancelled = true ∧ w' = w ∧ phase = .ended .finished) ∨
      (∃ t, work = .waiting t ∧ cancelled = false ∧ t.due ≤ w.now ∧
        (w', phase) = w.tick (t.next? w.now)) ∨
      ∃ t f, work = .publishing t f ∧ cancelled = false ∧ f.arrival ≤ w.now ∧
        w' = (w.land f).1 ∧ phase = phaseAfter t (w.land f).2 := by
  cases work with
  | arming =>
    rw [step?, Option.some.injEq, Prod.mk.injEq] at h
    exact .inl ⟨rfl, h.1.symm, h.2.symm⟩
  | waiting t =>
    rw [step?] at h
    split at h
    · rename_i hcancelled
      rw [Option.some.injEq, Prod.mk.injEq] at h
      exact .inr (.inl ⟨Work.noConfusion, hcancelled, h.1.symm, h.2.symm⟩)
    · rename_i hcancelled
      split at h
      · cases h
      · rename_i hdue
        exact .inr (.inr (.inl ⟨t, rfl, Bool.eq_false_iff.mpr hcancelled, Nat.le_of_not_lt hdue,
          (Option.some.inj h).symm⟩))
  | publishing t f =>
    rw [step?] at h
    split at h
    · rename_i hcancelled
      rw [Option.some.injEq, Prod.mk.injEq] at h
      exact .inr (.inl ⟨Work.noConfusion, hcancelled, h.1.symm, h.2.symm⟩)
    · rename_i hcancelled
      split at h
      · cases h
      · rename_i harrival
        rw [Option.some.injEq, Prod.mk.injEq] at h
        exact .inr (.inr (.inr ⟨t, f, rfl, Bool.eq_false_iff.mpr hcancelled,
          Nat.le_of_not_lt harrival, h.1.symm, h.2.symm⟩))

/-- A step of a task takes no time, and leaves the publisher and the configuration as they are. -/
theorem step?_frame {w w' : World} {cancelled : Bool} {work : Work} {phase : Phase Work}
    (h : w.step? cancelled work = some (w', phase)) :
    w'.publisher = w.publisher ∧ w'.now = w.now ∧
      w'.registry.config = w.registry.config := by
  rcases step?_cases h with ⟨-, rfl, -⟩ | ⟨-, -, rfl, -⟩ | ⟨t, -, -, -, htick⟩ |
    ⟨t, f, -, -, -, rfl, -⟩
  · exact ⟨rfl, rfl, rfl⟩
  · exact ⟨rfl, rfl, rfl⟩
  · cases hnext : t.next? w.now with
    | none =>
      rw [hnext] at htick
      obtain ⟨rfl, -⟩ := Prod.mk.inj htick
      exact ⟨rfl, rfl, rfl⟩
    | some t' =>
      rw [hnext] at htick
      obtain ⟨rfl, -⟩ := Prod.mk.inj htick
      rw [publish_frame]
      exact ⟨rfl, rfl, Registry.config_beginPublish _ _ _⟩
  · rw [land_frame]
    exact ⟨rfl, rfl, rfl⟩

/-! ### Everything else is a run -/

variable (calls : List StopCall)

/-- The publisher of a world, with callers that wait. -/
def shared (w : World) (calls : List StopCall) : SharedPublisher Work := ⟨w.publisher, calls⟩

theorem run_runUntil (fuel limit : Nat) (w : World) :
    Run (w.shared calls) ((w.runUntil fuel limit).shared calls) := by
  unfold shared
  fun_induction runUntil fuel limit w with
  | case1 => exact .refl
  | case2 => exact .refl
  | case3 w fuel task cancelled work hliving w' phase hstep ih =>
    have hlives : w.publisher.Lives task :=
      ⟨cancelled, work, Lifecycle.getElem?_of_living? hliving⟩
    have hproceed : Run ⟨w.publisher, calls⟩ ⟨w'.publisher.proceed task phase, calls⟩ := by
      rw [(step?_frame hstep).1]
      exact .step .refl (.proceed phase hlives)
    exact hproceed.trans ih
  | case4 w fuel task cancelled work hliving hstep hdue ih => exact ih
  | case5 => exact .refl

theorem run_start (w : World) (canSpawn : Bool) :
    Run (w.shared calls) ((w.start canSpawn).1.shared calls) := by
  have hstart : (w.start canSpawn).1.shared calls =
      (w.shared calls).started canSpawn Work.arming := by
    simp only [start, started, shared]
    cases hs : w.publisher.start canSpawn .arming with
    | error e => rfl
    | ok publisher => rfl
  rw [hstart]
  exact .step .refl (.start canSpawn Work.arming)

theorem run_beginStop (w : World) :
    Run (w.shared calls) (w.beginStop.1.shared (w.beginStop.2 :: calls)) :=
  .step .refl .beginStop

theorem run_resume {w w' : World} {call : StopCall} (h : w.resume? call = some w') :
    Run (w.shared (call :: calls)) (w'.shared calls) := by
  obtain ⟨⟨publisher, notices⟩, hreturn, rfl⟩ := Option.map_eq_some_iff.mp h
  exact .step .refl (.resume (show _ = [] ++ call :: calls from rfl) hreturn)

theorem run_abandon (w : World) (call : StopCall) :
    Run (w.shared (call :: calls)) (w.shared calls) :=
  .step .refl (.abandon (show _ = [] ++ call :: calls from rfl))

theorem run_advanceTo (w : World) (limit : Nat) :
    Run (w.shared calls) ((w.advanceTo limit).shared calls) := by
  rw [advanceTo]
  exact run_runUntil calls _ _ w

theorem run_settle (w : World) : Run (w.shared calls) (w.settle.shared calls) := by
  rw [settle]
  exact run_advanceTo calls w w.now

/-- The end of a stop: its caller returns, or does not. -/
theorem run_getD_resume (w : World) (call : StopCall) :
    Run (w.shared (call :: calls)) (((w.resume? call).getD w).shared calls) := by
  cases hreturn : w.resume? call with
  | none =>
    rw [Option.getD_none]
    exact run_abandon calls w call
  | some w' =>
    rw [Option.getD_some]
    exact run_resume calls hreturn

/-- **To stop, and to wait for it, is a run.** -/
theorem run_stop (w : World) : Run (w.shared calls) (w.stop.shared calls) := by
  have hbegun := run_beginStop calls w
  cases hreturn : w.beginStop.1.resume? w.beginStop.2 with
  | some w' =>
    have hstop : w.stop = w' := by simp only [stop, hreturn]
    rw [hstop]
    exact hbegun.trans (run_resume calls hreturn)
  | none =>
    have hstop : w.stop =
        (w.beginStop.1.settle.resume? w.beginStop.2).getD w.beginStop.1.settle := by
      simp only [stop, hreturn]
    rw [hstop]
    exact (hbegun.trans (run_settle _ _)).trans (run_getD_resume calls _ _)

/-- To stop, and not to wait for it, is a run. -/
theorem run_abandonStop (w : World) : Run (w.shared calls) (w.abandonStop.1.shared calls) := by
  have hbegun := run_beginStop calls w
  cases hreturn : w.beginStop.1.resume? w.beginStop.2 with
  | some w' =>
    have hstop : w.abandonStop.1 = w' := by simp only [abandonStop, hreturn]
    rw [hstop]
    exact hbegun.trans (run_resume calls hreturn)
  | none =>
    have hstop : w.abandonStop.1 = w.beginStop.1 := by simp only [abandonStop, hreturn]
    rw [hstop]
    exact hbegun.trans (run_abandon calls _ _)

end Simulation.World

end DimensionalMetrics
