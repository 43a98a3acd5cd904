import DimensionalMetrics.Proofs.Publisher.Callers

/-!
# What is known of a task from its past

Two things about a task never change back: that it was asked to end, and that it has ended.  So
whatever callers do, an ended task stays as it is, and a caller that returns from a stop can rely on
what it waited for.  As only one task lives at a time, to wait for the task that the stage names is
to wait for all that were ever spawned.
-/

namespace DimensionalMetrics

variable {α : Type}

/-- A task may become another one only if it keeps that it was asked to end, and how it ended. -/
structure Task.Leads (t t' : Task α) : Prop where
  cancelled : t.cancelled = true → t'.cancelled = true
  ended : ∀ ending, t.phase = .ended ending → t'.phase = .ended ending

namespace Task.Leads

variable {t t' t'' : Task α}

theorem refl (t : Task α) : t.Leads t := ⟨id, fun _ => id⟩

theorem trans (h : t.Leads t') (h' : t'.Leads t'') : t.Leads t'' where
  cancelled := h'.cancelled ∘ h.cancelled
  ended := fun ending he => h'.ended ending (h.ended ending he)

end Task.Leads

namespace Lifecycle

variable {l l' : Lifecycle α} {task : Nat}

/-- A task was asked to end, whether it has ended or not. -/
def Cancelled (l : Lifecycle α) (task : Nat) : Prop :=
  ∃ t, l.tasks[task]? = some t ∧ t.cancelled = true

/-- Every task is still there, and knows its past. -/
def Leads (l l' : Lifecycle α) : Prop :=
  ∀ (task : Nat) (t : Task α), l.tasks[task]? = some t →
    ∃ t', l'.tasks[task]? = some t' ∧ t.Leads t'

namespace Leads

theorem of_tasks_eq (h : l'.tasks = l.tasks) : l.Leads l' := by
  intro task t ht
  rw [h]
  exact ⟨t, ht, .refl t⟩

theorem trans {l'' : Lifecycle α} (h : l.Leads l') (h' : l'.Leads l'') : l.Leads l'' := by
  intro task t ht
  obtain ⟨t', ht', hleads⟩ := h task t ht
  obtain ⟨t'', ht'', hleads'⟩ := h' task t' ht'
  exact ⟨t'', ht'', hleads.trans hleads'⟩

theorem spawn (l : Lifecycle α) (work : α) : l.Leads (l.spawn work) := by
  intro task t ht
  obtain ⟨hlt, -⟩ := List.getElem?_eq_some_iff.mp ht
  refine ⟨t, ?_, .refl t⟩
  rw [getElem?_spawn, if_neg (Nat.ne_of_lt hlt)]
  exact ht

theorem modify {f : Task α → Task α} {i : Nat}
    (hf : ∀ t, l.tasks[i]? = some t → t.Leads (f t)) : l.Leads (l.modify i f) := by
  intro task t ht
  refine ⟨if i = task then f t else t, ?_, ?_⟩
  · simp only [Lifecycle.modify, List.getElem?_modify, ht, Option.map_eq_map, Option.map_some]
  · by_cases hi : i = task
    · rw [if_pos hi]
      subst hi
      exact hf t ht
    · rw [if_neg hi]
      exact .refl t

theorem beginStop (l : Lifecycle α) : l.Leads l.beginStop.1 := by
  rcases l.beginStop_cases with hsame | ⟨i, -, hasked⟩
  · exact of_tasks_eq (congrArg Lifecycle.tasks hsame)
  · have hmodify : l.Leads (l.modify i fun t => { t with cancelled := true }) :=
      modify fun t _ => ⟨fun _ => rfl, fun _ => id⟩
    refine hmodify.trans (of_tasks_eq ?_)
    rw [hasked]

/-- Only a living task goes on to something else. -/
theorem proceed {i : Nat} (hlives : l.Lives i) (phase : Phase α) : l.Leads (l.proceed i phase) := by
  obtain ⟨cancelled, work, htask⟩ := hlives
  apply modify
  intro t ht
  obtain rfl : t = ⟨cancelled, .alive work⟩ := Option.some.inj (ht.symm.trans htask)
  exact ⟨id, fun ending he => by cases he⟩

theorem hasEnded (h : l.Leads l') (hended : l.hasEnded task = true) : l'.hasEnded task = true := by
  simp only [Lifecycle.hasEnded, ending?, Option.isSome_iff_exists, Option.bind_eq_some_iff]
    at hended ⊢
  obtain ⟨ending, t, ht, he⟩ := hended
  obtain ⟨t', ht', hleads⟩ := h task t ht
  obtain ⟨cancelled, phase⟩ := t
  cases phase with
  | alive work => cases he
  | ended e =>
    refine ⟨e, t', ht', ?_⟩
    simp only [Task.ending?, hleads.ended e rfl]

theorem cancelled (h : l.Leads l') (hcancelled : l.Cancelled task) : l'.Cancelled task := by
  obtain ⟨t, ht, hc⟩ := hcancelled
  obtain ⟨t', ht', hleads⟩ := h task t ht
  exact ⟨t', ht', hleads.cancelled hc⟩

theorem length_le (h : l.Leads l') : l.tasks.length ≤ l'.tasks.length := by
  apply Nat.le_of_not_lt
  intro hlt
  obtain ⟨t', ht', -⟩ := h l'.tasks.length _ (List.getElem?_eq_getElem hlt)
  obtain ⟨hlt', -⟩ := List.getElem?_eq_some_iff.mp ht'
  exact Nat.lt_irrefl _ hlt'

end Leads

/-- A task that was spawned either lives or has ended. -/
theorem lives_or_hasEnded (h : task < l.tasks.length) : l.Lives task ∨ l.hasEnded task = true := by
  have htask : l.tasks[task]? = some l.tasks[task] := List.getElem?_eq_getElem h
  rcases hphase : l.tasks[task] with ⟨cancelled, work | ending⟩
  · exact .inl ⟨cancelled, work, htask.trans (congrArg some hphase)⟩
  · right
    simp only [hasEnded, ending?, htask, hphase, Option.bind_some, Task.ending?, Option.isSome_some]

theorem not_lives_of_hasEnded (h : l.hasEnded task = true) : ¬ l.Lives task := by
  intro hlives
  rw [hlives.hasEnded] at h
  cases h

/-! ### The task that is waited for was asked to end -/

def Asked (l : Lifecycle α) : Prop :=
  ∀ task, l.stage = .stopping task → l.Lives task → l.Cancelled task

theorem asked_new : (new : Lifecycle α).Asked := by
  intro task hs
  cases hs

/-- From the first step of a stop on, the living task is one that was asked to end. -/
theorem Asked.cancelled_beginStop (h : l.Asked) (htracked : l.Tracked) (hlives : l.Lives task) :
    l.beginStop.1.Cancelled task := by
  rcases htracked task hlives with hs | hs
  · obtain ⟨cancelled, work, htask⟩ := hlives
    refine ⟨⟨true, .alive work⟩, ?_, rfl⟩
    simp [Lifecycle.beginStop, hs, Lifecycle.modify, htask]
  · exact (Leads.beginStop l).cancelled (h task hs hlives)

theorem Asked.beginStop (h : l.Asked) (htracked : l.Tracked) : l.beginStop.1.Asked := by
  intro task _ hlives
  exact h.cancelled_beginStop htracked (lives_beginStop hlives)

theorem Asked.resume? {call : StopCall} {notices : List Notice} (h : l.Asked)
    (hreturn : l.resume? call = some (l', notices)) : l'.Asked := by
  rcases resume?_cases hreturn with rfl | ⟨t, -, -, rfl⟩
  · exact h
  · intro task hs
    cases hs

theorem Asked.proceed {i : Nat} (h : l.Asked) (hi : l.Lives i) (phase : Phase α) :
    (l.proceed i phase).Asked := by
  intro task hs hlives
  exact (Leads.proceed hi phase).cancelled (h task hs (lives_proceed hi hlives))

/-! ### What a caller knows that returns -/

/-- **Whoever returns from a stop has waited for every task that was there when the stop began.** -/
theorem Tracked.hasEnded_of_return {r : Lifecycle α × List Notice} (h : l.Tracked)
    (hleads : l.Leads l') (hreturn : l'.resume? l.beginStop.2 = some r)
    (htask : task < l.tasks.length) : l'.hasEnded task = true := by
  rcases lives_or_hasEnded htask with hlives | hended
  · rcases h task hlives with hs | hs
    · -- This caller asks the task to end, and waits until it is gone.
      simp only [Lifecycle.beginStop, hs, Lifecycle.resume?] at hreturn
      cases he : l'.ending? task with
      | none =>
        rw [he] at hreturn
        cases hreturn
      | some ending => simp only [Lifecycle.hasEnded, he, Option.isSome_some]
    · -- Another caller has asked it before, and this one waits for the same task.
      simp only [Lifecycle.beginStop, hs, Lifecycle.resume?] at hreturn
      split at hreturn
      · assumption
      · cases hreturn
  · exact hleads.hasEnded hended

end Lifecycle

namespace SharedPublisher

variable {s s' : SharedPublisher α}

theorem Step.leads (hstep : Step s s') : s.publisher.Leads s'.publisher := by
  cases hstep with
  | start canSpawn work =>
    unfold started
    split
    · rename_i publisher hstart
      obtain ⟨-, -, rfl⟩ := Lifecycle.start_cases hstart
      exact .spawn _ work
    · exact .of_tasks_eq rfl
  | beginStop => exact .beginStop _
  | resume hcall hreturn =>
    apply Lifecycle.Leads.of_tasks_eq
    rcases Lifecycle.resume?_cases hreturn with rfl | ⟨t, -, -, rfl⟩
    · rfl
    · rfl
  | abandon hcall => exact .of_tasks_eq rfl
  | proceed phase hlives => exact .proceed hlives phase

theorem Run.leads (hrun : Run s s') : s.publisher.Leads s'.publisher := by
  induction hrun with
  | refl => exact .of_tasks_eq rfl
  | step _ hstep ih => exact ih.trans hstep.leads

theorem Step.asked (hstep : Step s s') (htracked : s.publisher.Tracked) (h : s.publisher.Asked) :
    s'.publisher.Asked := by
  cases hstep with
  | start canSpawn work =>
    unfold started
    split
    · rename_i publisher hstart
      obtain ⟨-, -, rfl⟩ := Lifecycle.start_cases hstart
      intro task hs
      cases hs
    · exact h
  | beginStop => exact h.beginStop htracked
  | resume hcall hreturn => exact h.resume? hreturn
  | abandon hcall => exact h
  | proceed phase hlives => exact h.proceed hlives phase

theorem Run.asked (hrun : Run s s') (htracked : s.publisher.Tracked) (h : s.publisher.Asked) :
    s'.publisher.Asked := by
  induction hrun with
  | refl => exact h
  | step hbefore hstep ih => exact hstep.asked (hbefore.tracked htracked) ih

end SharedPublisher

end DimensionalMetrics
