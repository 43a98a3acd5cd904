import DimensionalMetrics.Publisher.Lifecycle

/-!
# A publisher under many callers

Callers start and stop a publisher at any time, its tasks go on or end by themselves, and a caller that
stops it waits in between without keeping the others out.  Each constructor of `Step` is something that
happens at once, so a `Run` is any interleaving of any number of starts, stops and tasks.  A stop that
waits may return when it can, much later, or never if it is abandoned.

The stage of the publisher is what carries the whole argument: a task that lives is the one that the
stage names.  A start replaces the stage only if the task that it names has ended, and so does a stop that
returns.
-/

namespace DimensionalMetrics

/-- A publisher, and the callers that wait for it to stop. -/
structure SharedPublisher (α : Type) where
  publisher : Lifecycle α
  stops : List StopCall

variable {α : Type}

namespace Lifecycle

/-- A task was spawned and has not ended. -/
def Lives (l : Lifecycle α) (task : Nat) : Prop :=
  ∃ cancelled work, l.tasks[task]? = some ⟨cancelled, .alive work⟩

/-- The stage names every task that lives. -/
def Tracked (l : Lifecycle α) : Prop :=
  ∀ task, l.Lives task → l.stage = .running task ∨ l.stage = .stopping task

end Lifecycle

namespace SharedPublisher

/-- A publisher that was never started. -/
def new : SharedPublisher α := ⟨.new, []⟩

/-- The publisher after a start, which may have failed. -/
def started (s : SharedPublisher α) (canSpawn : Bool) (work : α) : SharedPublisher α :=
  match s.publisher.start canSpawn work with
  | .ok publisher => { s with publisher }
  | .error _ => s

inductive Step : SharedPublisher α → SharedPublisher α → Prop
  | start {s : SharedPublisher α} (canSpawn : Bool) (work : α) : Step s (s.started canSpawn work)
  | beginStop {s : SharedPublisher α} :
      Step s ⟨s.publisher.beginStop.1, s.publisher.beginStop.2 :: s.stops⟩
  | resume {s : SharedPublisher α} {before after : List StopCall} {call : StopCall}
      {publisher : Lifecycle α} {notices : List Notice} (hcall : s.stops = before ++ call :: after)
      (hreturn : s.publisher.resume? call = some (publisher, notices)) :
      Step s ⟨publisher, before ++ after⟩
  | abandon {s : SharedPublisher α} {before after : List StopCall} {call : StopCall}
      (hcall : s.stops = before ++ call :: after) : Step s ⟨s.publisher, before ++ after⟩
  /-- A task goes on to something else, or ends, or crashes. -/
  | proceed {s : SharedPublisher α} {task : Nat} (phase : Phase α) (hlives : s.publisher.Lives task) :
      Step s ⟨s.publisher.proceed task phase, s.stops⟩

/-- Any number of steps. -/
inductive Run (s : SharedPublisher α) : SharedPublisher α → Prop
  | refl : Run s s
  | step {s' s'' : SharedPublisher α} (h : Run s s') (hstep : Step s' s'') : Run s s''

end SharedPublisher

namespace Lifecycle

variable {l : Lifecycle α} {task : Nat}

/-! ### What each operation does to the tasks -/

theorem Lives.hasEnded (h : l.Lives task) : l.hasEnded task = false := by
  obtain ⟨cancelled, work, htask⟩ := h
  simp [Lifecycle.hasEnded, Lifecycle.ending?, htask, Task.ending?]

theorem start_cases {canSpawn : Bool} {work : α} {l' : Lifecycle α}
    (h : l.start canSpawn work = .ok l') :
    canSpawn = true ∧ l.isIdle = true ∧ l' = l.spawn work := by
  cases canSpawn with
  | false => cases h
  | true =>
    cases hs : l.stage with
    | stopped =>
      simp only [start, hs] at h
      cases h
      exact ⟨rfl, by simp only [isIdle, hs], rfl⟩
    | running t =>
      simp only [start, hs] at h
      cases h
    | stopping t =>
      simp only [start, hs, Bool.not_true, Bool.false_eq_true, if_false] at h
      split at h
      · rename_i hended
        cases h
        exact ⟨rfl, by simp only [isIdle, hs, hended], rfl⟩
      · cases h

/-- To begin to stop changes nothing, unless there is a running task: that one is asked to end. -/
theorem beginStop_cases (l : Lifecycle α) :
    l.beginStop.1 = l ∨
      ∃ i, l.stage = .running i ∧ l.beginStop.1 =
        { l.modify i (fun t => { t with cancelled := true }) with stage := .stopping i } := by
  cases hs : l.stage with
  | stopped =>
    left
    simp only [beginStop, hs]
  | stopping i =>
    left
    simp only [beginStop, hs]
  | running i =>
    right
    refine ⟨i, rfl, ?_⟩
    simp only [beginStop, hs]

/-- A new task comes after all others, which stay as they are. -/
theorem getElem?_spawn (l : Lifecycle α) (work : α) (task : Nat) :
    (l.spawn work).tasks[task]? =
      if task = l.tasks.length then some ⟨false, .alive work⟩ else l.tasks[task]? := by
  rw [spawn]
  rcases Nat.lt_trichotomy task l.tasks.length with hlt | rfl | hgt
  · rw [List.getElem?_append_left hlt, if_neg (Nat.ne_of_lt hlt)]
  · rw [List.getElem?_concat_length, if_pos rfl]
  · have hnone : l.tasks[task]? = none := List.getElem?_eq_none (Nat.le_of_lt hgt)
    rw [if_neg (Nat.ne_of_gt hgt), hnone]
    apply List.getElem?_eq_none
    rw [List.length_append, List.length_singleton]
    exact hgt

theorem lives_spawn {work : α} (h : (l.spawn work).Lives task) :
    l.Lives task ∨ task = l.tasks.length := by
  obtain ⟨cancelled, work', htask⟩ := h
  rw [getElem?_spawn] at htask
  split at htask
  · rename_i hnew
    exact .inr hnew
  · exact .inl ⟨cancelled, work', htask⟩

theorem lives_of_modify {f : Task α → Task α} {i : Nat}
    (hf : ∀ t, l.tasks[i]? = some t → ∀ work, (f t).phase = .alive work → ∃ work', t.phase = .alive work')
    (h : (l.modify i f).Lives task) : l.Lives task := by
  obtain ⟨cancelled, work, htask⟩ := h
  rw [modify, List.getElem?_modify] at htask
  cases ht : l.tasks[task]? with
  | none =>
    rw [ht] at htask
    cases htask
  | some t =>
    rw [ht] at htask
    obtain ⟨cancelled', phase⟩ := t
    by_cases hi : i = task
    · subst hi
      simp only [if_true, Option.map_eq_map, Option.map_some, Option.some.injEq] at htask
      have hphase : (f ⟨cancelled', phase⟩).phase = .alive work := by rw [htask]
      obtain ⟨work', hwork'⟩ := hf _ ht work hphase
      exact ⟨cancelled', work', by rw [ht, ← hwork']⟩
    · simp only [if_neg hi, Option.map_eq_map, Option.map_some, Option.some.injEq,
        Task.mk.injEq] at htask
      exact ⟨cancelled', work, by rw [ht, ← htask.2]⟩

theorem lives_beginStop (h : l.beginStop.1.Lives task) : l.Lives task := by
  rcases l.beginStop_cases with hsame | ⟨i, -, hasked⟩
  · rwa [hsame] at h
  · rw [hasked] at h
    exact lives_of_modify (f := fun t => { t with cancelled := true }) (i := i)
      (fun t _ work hwork => ⟨work, hwork⟩) h

theorem lives_proceed {i : Nat} {phase : Phase α} (hi : l.Lives i)
    (h : (l.proceed i phase).Lives task) : l.Lives task := by
  obtain ⟨cancelled, work, htask⟩ := hi
  refine lives_of_modify (fun t ht _ _ => ⟨work, ?_⟩) h
  rw [htask] at ht
  rw [← Option.some.inj ht]

/-- Who returns from a stop leaves the tasks alone, and the stage too unless its task has ended. -/
theorem resume?_cases {call : StopCall} {l' : Lifecycle α} {notices : List Notice}
    (h : l.resume? call = some (l', notices)) :
    l' = l ∨ ∃ t, l.stage = .stopping t ∧ l.hasEnded t = true ∧ l' = { l with stage := .stopped } := by
  cases call with
  | idle =>
    simp only [resume?, Option.some.injEq, Prod.mk.injEq] at h
    exact .inl h.1.symm
  | following t =>
    simp only [resume?] at h
    split at h
    · simp only [Option.some.injEq, Prod.mk.injEq] at h
      exact .inl h.1.symm
    · cases h
  | leading t =>
    simp only [resume?] at h
    cases hended : l.ending? t with
    | none =>
      rw [hended] at h
      cases h
    | some ending =>
      rw [hended] at h
      simp only [Option.some.injEq, Prod.mk.injEq] at h
      obtain ⟨rfl, -⟩ := h
      obtain ⟨stage, tasks⟩ := l
      cases stage with
      | stopped => exact .inl rfl
      | running u => exact .inl rfl
      | stopping u =>
        dsimp only
        by_cases hu : Lifecycle.hasEnded ⟨.stopping u, tasks⟩ u = true
        · right
          exact ⟨u, rfl, hu, by rw [if_pos hu]⟩
        · left
          rw [if_neg hu]

/-! ### The stage tracks the living task -/

theorem Tracked.isIdle (h : l.Tracked) (hlives : l.Lives task) : l.isIdle = false := by
  rcases h task hlives with hs | hs
  · simp only [Lifecycle.isIdle, hs]
  · simp only [Lifecycle.isIdle, hs]
    exact hlives.hasEnded

theorem Tracked.start {canSpawn : Bool} {work : α} {l' : Lifecycle α} (h : l.Tracked)
    (hstart : l.start canSpawn work = .ok l') : l'.Tracked := by
  obtain ⟨-, hidle, rfl⟩ := start_cases hstart
  intro task hlives
  rcases lives_spawn hlives with hold | rfl
  · rw [h.isIdle hold] at hidle
    cases hidle
  · exact .inl rfl

theorem Tracked.beginStop (h : l.Tracked) : l.beginStop.1.Tracked := by
  intro task hlives
  have hstage := h task (lives_beginStop hlives)
  rcases l.beginStop_cases with hsame | ⟨i, hrunning, hasked⟩
  · rwa [hsame]
  · rw [hrunning] at hstage
    rcases hstage with hstage | hstage
    · cases hstage
      exact .inr (congrArg Lifecycle.stage hasked)
    · cases hstage

/-- While a task lives, nobody who returns from a stop changes anything. -/
theorem Tracked.resume?_eq {call : StopCall} {l' : Lifecycle α} {notices : List Notice}
    (h : l.Tracked) (hlives : l.Lives task) (hreturn : l.resume? call = some (l', notices)) :
    l' = l := by
  rcases resume?_cases hreturn with rfl | ⟨t, hs, hended, -⟩
  · rfl
  · rcases h task hlives with hstage | hstage
    · rw [hs] at hstage
      cases hstage
    · rw [hs] at hstage
      cases hstage
      rw [hlives.hasEnded] at hended
      cases hended

theorem Tracked.resume? {call : StopCall} {l' : Lifecycle α} {notices : List Notice}
    (h : l.Tracked) (hreturn : l.resume? call = some (l', notices)) : l'.Tracked := by
  intro task hlives
  have hold : l.Lives task := by
    rcases resume?_cases hreturn with rfl | ⟨t, -, -, rfl⟩
    · exact hlives
    · exact hlives
  rw [h.resume?_eq hold hreturn]
  exact h task hold

theorem Tracked.proceed {i : Nat} (h : l.Tracked) (hi : l.Lives i) (phase : Phase α) :
    (l.proceed i phase).Tracked := by
  intro task hlives
  exact h task (lives_proceed hi hlives)

theorem tracked_new : (new : Lifecycle α).Tracked := by
  rintro task ⟨cancelled, work, htask⟩
  cases htask

/-- A start fails while a task lives, and says why. -/
theorem Tracked.start_eq_error (h : l.Tracked) (hlives : l.Lives task) (canSpawn : Bool) (work : α) :
    l.start canSpawn work = .error (if canSpawn = false then .noRuntime
      else if l.stage = .running task then .alreadyRunning else .stopping) := by
  cases canSpawn with
  | false => rfl
  | true =>
    rcases h task hlives with hs | hs
    · simp [Lifecycle.start, hs]
    · simp [Lifecycle.start, hs, hlives.hasEnded]

end Lifecycle

namespace SharedPublisher

variable {s s' : SharedPublisher α}

theorem Step.tracked (hstep : Step s s') (h : s.publisher.Tracked) : s'.publisher.Tracked := by
  cases hstep with
  | start canSpawn work =>
    unfold started
    split
    · rename_i publisher hstart
      exact h.start hstart
    · exact h
  | beginStop => exact h.beginStop
  | resume hcall hreturn => exact h.resume? hreturn
  | abandon hcall => exact h
  | proceed phase hlives => exact h.proceed hlives phase

theorem Run.tracked (hrun : Run s s') (h : s.publisher.Tracked) : s'.publisher.Tracked := by
  induction hrun with
  | refl => exact h
  | step _ hstep ih => exact hstep.tracked ih

/-- **At most one task lives, and the publisher knows it.**  As long as it lives the publisher counts as
running, a start only tells why it fails, and a stop that returns, for whichever task it waited, changes
nothing. -/
theorem living_task_tracked (hrun : Run new s) :
    (∀ i j, s.publisher.Lives i → s.publisher.Lives j → i = j) ∧
      ∀ task, s.publisher.Lives task →
        (s.publisher.stage = .running task ∨ s.publisher.stage = .stopping task) ∧
          s.publisher.isRunning = true ∧
          (∀ canSpawn work,
            s.publisher.start canSpawn work = .error (if canSpawn = false then .noRuntime
              else if s.publisher.stage = .running task then .alreadyRunning else .stopping) ∧
            s.started canSpawn work = s) ∧
          ∀ call publisher notices, s.publisher.resume? call = some (publisher, notices) →
            publisher = s.publisher := by
  have htracked : s.publisher.Tracked := hrun.tracked Lifecycle.tracked_new
  constructor
  · intro i j hi hj
    rcases htracked i hi with hstage | hstage
    · rcases htracked j hj with hstage' | hstage'
      · rw [hstage] at hstage'
        exact Stage.running.inj hstage'
      · rw [hstage] at hstage'
        cases hstage'
    · rcases htracked j hj with hstage' | hstage'
      · rw [hstage] at hstage'
        cases hstage'
      · rw [hstage] at hstage'
        exact Stage.stopping.inj hstage'
  · intro task hlives
    refine ⟨htracked task hlives, ?_, ?_, ?_⟩
    · rw [Lifecycle.isRunning, htracked.isIdle hlives]
      rfl
    · intro canSpawn work
      have hstart := htracked.start_eq_error hlives canSpawn work
      refine ⟨hstart, ?_⟩
      rw [started, hstart]
    · intro call publisher notices hreturn
      exact htracked.resume?_eq hlives hreturn

/-- Two callers stop the first task, which ends; before they return the publisher is started and stopped
again.  The caller that stopped the first task returns while the second one lives. -/
theorem late_stop_keeps_newer_task :
    ∃ s : SharedPublisher Unit, Run new s ∧ s.stops = [.leading 1, .following 0, .leading 0] ∧
      s.publisher.Lives 1 ∧ (s.publisher.resume? (.leading 0)).isSome = true ∧
      s.publisher.stage = .stopping 1 ∧ s.publisher.isRunning = true ∧
      ∀ publisher notices, s.publisher.resume? (.leading 0) = some (publisher, notices) →
        publisher = s.publisher := by
  have hstarted : Run (new : SharedPublisher Unit) _ := .step .refl (.start true ())
  have hstopped := Run.step (Run.step hstarted .beginStop) .beginStop
  have hended := hstopped.step
    (.proceed (.ended .finished) (show Lifecycle.Lives _ 0 from ⟨true, (), rfl⟩))
  have hagain := Run.step (Run.step hended (.start true ())) .beginStop
  obtain ⟨-, hrunning, -, hreturn⟩ := (living_task_tracked hagain).2 1 ⟨true, (), rfl⟩
  exact ⟨_, hagain, rfl, ⟨true, (), rfl⟩, rfl, rfl, hrunning, hreturn _⟩

end SharedPublisher

end DimensionalMetrics
