import DimensionalMetrics.Proofs.Simulation.Timed

/-!
# Letting time pass

To let time pass is a run that keeps time.  The number of steps and waits is bounded beforehand, so it
has to be shown that the bound is never reached: otherwise the clock would jump over ticks.  The
`budget` of a task pays for all that it can still do up to an instant, and every step and every wait
costs one of it.

The ticks of every run that keeps time are on schedule.
-/

namespace DimensionalMetrics

/-! ### Ticks that are left -/

namespace Ticker

variable {t : Ticker} {now limit : Nat}

/-- How many ticks there can be up to an instant. -/
def left (t : Ticker) (now limit : Nat) : Nat :=
  (limit + t.period - max t.deadline (now - tolerance)) / t.period

theorem left_anti {now' : Nat} (h : now ≤ now') : t.left now' limit ≤ t.left now limit := by
  apply Nat.div_le_div_right
  omega

theorem left_le (hperiod : 0 < t.period) (hlimit : now ≤ limit) :
    t.left now limit ≤ (limit - now + tolerance) / t.period + 1 := by
  rw [← Nat.add_div_right _ hperiod]
  apply Nat.div_le_div_right
  omega

theorem left_start (frequency : Nat) :
    (Ticker.mk (now + frequency) frequency).left now limit = (limit - now) / frequency := by
  have hmax : max (now + frequency) (now - tolerance) = now + frequency := by omega
  have hsub : limit + frequency - (now + frequency) = limit - now := by omega
  rw [left, hmax, hsub]

/-- A tick uses up one of those that are left, late or not. -/
theorem left_after (hperiod : 0 < t.period) (hdue : t.due ≤ now) (hlimit : now ≤ limit) :
    (t.after now).left now limit + 1 ≤ t.left now limit := by
  have hdeadline : t.deadline ≤ now := Nat.le_trans t.deadline_le_due hdue
  have hlater : max t.deadline (now - tolerance) + t.period ≤
      max (t.after now).deadline (now - tolerance) := by
    rcases Nat.lt_or_ge (t.deadline + tolerance) now with hlate | hpunctual
    · rw [after_deadline_of_lt hlate]
      omega
    · rw [after_deadline_of_le hpunctual]
      omega
  calc (t.after now).left now limit + 1
      = (limit + t.period - max (t.after now).deadline (now - tolerance) + t.period) / t.period :=
        (Nat.add_div_right _ hperiod).symm
    _ ≤ t.left now limit := by
      apply Nat.div_le_div_right
      omega

end Ticker

namespace Simulation

/-! ### Answers that are left -/

/-- How many answers are still to come for a publish. -/
def Progress.underWay : Progress → Nat
  | finished | crashed _ => 0
  | flying _ => 1

namespace World

variable {w w' : World}

/-- How many answers of the backend can still take time. -/
def answersLeft (w : World) : Nat :=
  match w.backend with
  | .scripted answers => answers.length
  | .web => 0

theorem answersLeft_send (w : World) (c : Call) :
    (w.send c).1.answersLeft + (if (w.send c).2.delay = 0 then 0 else 1) ≤ w.answersLeft := by
  cases hb : w.backend with
  | web => simp [send, answersLeft, hb]
  | scripted answers =>
    cases answers with
    | nil => simp [send, answersLeft, hb]
    | cons a answers =>
      simp only [send, answersLeft, hb, List.tail_cons, List.length_cons]
      split <;> omega

theorem answersLeft_pursue (w : World) (d : Delivery) :
    (w.pursue d).1.answersLeft + (w.pursue d).2.underWay ≤ w.answersLeft := by
  fun_induction pursue w d with
  | case1 => exact Nat.le_refl _
  | case2 w d payload rest _ w' answer hsend _ reason _ =>
    have hanswers := answersLeft_send w (d.call payload)
    rw [hsend] at hanswers
    exact Nat.le_trans (Nat.le_add_right _ _) hanswers
  | case3 w d payload rest _ w' answer hsend _ o _ ih =>
    have hanswers := answersLeft_send w (d.call payload)
    rw [hsend] at hanswers
    exact Nat.le_trans ih (Nat.le_trans (Nat.le_add_right _ _) hanswers)
  | case4 w d payload rest _ w' answer hsend hdelay =>
    have hanswers := answersLeft_send w (d.call payload)
    rw [hsend, if_neg hdelay] at hanswers
    exact hanswers

theorem answersLeft_land (w : World) (f : Flight) :
    (w.land f).1.answersLeft + (w.land f).2.underWay ≤ w.answersLeft := by
  unfold land
  split
  · exact Nat.le_refl _
  · exact answersLeft_pursue _ _
  · exact answersLeft_pursue _ _

theorem answersLeft_publish (w : World) :
    w.publish.1.answersLeft + w.publish.2.underWay ≤ w.answersLeft := by
  unfold publish
  dsimp only
  split
  · exact Nat.le_refl _
  · exact Nat.le_refl _
  · exact answersLeft_pursue _ _

/-! ### Budgets -/

/-- How many ticks a task can handle up to an instant. -/
def ticksLeft (w : World) (limit : Nat) : Work → Nat
  | .arming => (limit - w.now) / w.registry.config.frequency.nanos
  | .waiting t | .publishing t _ => t.left w.now limit

/-- What a task needs besides, for what it is just doing. -/
def share : Work → Nat
  | .arming | .publishing _ _ => 3
  | .waiting _ => 1

/-- A bound on the steps and waits of a task up to an instant: it waits for each tick and for each
answer, and takes a step then. -/
def budget (w : World) (limit : Nat) (work : Work) : Nat :=
  2 * (w.ticksLeft limit work + w.answersLeft) + share work + if w.now < work.wake then 1 else 0

def phaseBudget (w : World) (limit : Nat) : Phase Work → Nat
  | .alive work => w.budget limit work
  | .ended _ => 0

/-- The ticks of a task are so far apart. -/
def Paced (frequency : Nat) : Work → Prop
  | .arming => True
  | .waiting t | .publishing t _ => t.period = frequency

variable {limit : Nat} {cancelled : Bool} {work : Work} {phase : Phase Work}

theorem budget_pos (w : World) (limit : Nat) (work : Work) : 0 < w.budget limit work := by
  cases work <;> simp only [budget, share] <;> omega

theorem budget_le (w : World) (limit : Nat) (work : Work) :
    w.budget limit work ≤ 2 * (w.ticksLeft limit work + w.answersLeft) + share work + 1 := by
  rw [budget]
  split
  · exact Nat.le_refl _
  · exact Nat.le_succ _

theorem phaseBudget_phaseAfter (w : World) (limit : Nat) (t : Ticker) (p : Progress) :
    w.phaseBudget limit (phaseAfter t p) ≤
      2 * (t.left w.now limit + (w.answersLeft + p.underWay)) + 2 := by
  cases p with
  | finished => exact w.budget_le limit (.waiting t)
  | crashed reason => exact Nat.zero_le _
  | flying f =>
    calc w.budget limit (.publishing t f)
        ≤ 2 * (t.left w.now limit + w.answersLeft) + 3 + 1 := w.budget_le limit (.publishing t f)
      _ = 2 * (t.left w.now limit + (w.answersLeft + 1)) + 2 := by omega

/-- A step costs one. -/
theorem phaseBudget_step? (hstep : w.step? cancelled work = some (w', phase))
    (hpaced : Paced w.registry.config.frequency.nanos work)
    (hfrequency : 0 < w.registry.config.frequency.nanos) (hlimit : w.now ≤ limit) :
    w'.phaseBudget limit phase + 1 ≤ w.budget limit work := by
  rcases step?_cases hstep with ⟨rfl, rfl, rfl⟩ | ⟨-, -, rfl, rfl⟩ | ⟨t, rfl, -, hdue, htick⟩ |
    ⟨t, f, rfl, -, -, rfl, rfl⟩
  · cases hstart : Ticker.start? w'.now w'.registry.config.frequency with
    | none => exact w'.budget_pos limit .arming
    | some t =>
      have hbudget := w'.budget_le limit (.waiting t)
      obtain rfl := Ticker.eq_of_start? hstart
      rw [ticksLeft, Ticker.left_start] at hbudget
      exact Nat.le_trans (Nat.succ_le_succ hbudget) (Nat.le_add_right _ _)
  · exact w'.budget_pos limit work
  · have hperiod : 0 < t.period := hpaced ▸ hfrequency
    cases hnext : t.next? w.now with
    | none =>
      rw [hnext, tick, Prod.mk.injEq] at htick
      obtain ⟨rfl, rfl⟩ := htick
      exact w'.budget_pos limit (.waiting t)
    | some t' =>
      have hleft := Ticker.left_after hperiod hdue hlimit
      rw [hnext, tick, Ticker.eq_after_of_next? hnext, Prod.mk.injEq] at htick
      obtain ⟨rfl, rfl⟩ := htick
      have hbudget := w.publish.1.phaseBudget_phaseAfter limit (t.after w.now) w.publish.2
      have hanswers := w.answersLeft_publish
      rw [now_publish] at hbudget
      simp only [budget, ticksLeft, share]
      omega
  · have hbudget := (w.land f).1.phaseBudget_phaseAfter limit t (w.land f).2
    have hanswers := w.answersLeft_land f
    rw [now_land] at hbudget
    simp only [budget, ticksLeft, share]
    omega

/-- A task that has to wait can go on later. -/
theorem lt_wake_of_step?_eq_none (h : w.step? cancelled work = none) : w.now < work.wake := by
  cases work with
  | arming => cases h
  | waiting t =>
    rw [step?] at h
    split at h
    · cases h
    · split at h
      · assumption
      · cases h
  | publishing t f =>
    rw [step?] at h
    split at h
    · cases h
    · split at h
      · assumption
      · cases h

/-- A wait costs one. -/
theorem budget_wait (limit : Nat) (hwait : w.now < work.wake) :
    ({ w with now := work.wake } : World).budget limit work + 1 ≤ w.budget limit work := by
  have hanswers : ({ w with now := work.wake } : World).answersLeft = w.answersLeft := rfl
  have hticks : ({ w with now := work.wake } : World).ticksLeft limit work ≤
      w.ticksLeft limit work := by
    cases work with
    | arming => cases hwait
    | waiting t => exact Ticker.left_anti hwait.le
    | publishing t f => exact Ticker.left_anti hwait.le
  rw [budget, budget, if_neg (Nat.lt_irrefl _), if_pos hwait, hanswers]
  omega

/-- The bound on steps and waits is enough for any task. -/
theorem budget_le_stepBound (hpaced : Paced w.registry.config.frequency.nanos work)
    (hfrequency : 0 < w.registry.config.frequency.nanos) (hlimit : w.now ≤ limit) :
    w.budget limit work ≤ w.stepBound (limit - w.now) := by
  have hticks : w.ticksLeft limit work ≤ (limit - w.now + Ticker.tolerance + millisecond) /
      w.registry.config.frequency.nanos + 1 := by
    have hspan : (limit - w.now + Ticker.tolerance) / w.registry.config.frequency.nanos ≤
        (limit - w.now + Ticker.tolerance + millisecond) / w.registry.config.frequency.nanos :=
      Nat.div_le_div_right (Nat.le_add_right _ _)
    have hleft : ∀ t : Ticker, t.period = w.registry.config.frequency.nanos →
        t.left w.now limit ≤
          (limit - w.now + Ticker.tolerance) / w.registry.config.frequency.nanos + 1 := by
      intro t ht
      rw [← ht] at hfrequency ⊢
      exact Ticker.left_le hfrequency hlimit
    cases work with
    | arming =>
      refine Nat.le_succ_of_le (Nat.div_le_div_right ?_)
      omega
    | waiting t => exact Nat.le_trans (hleft t hpaced) (Nat.succ_le_succ hspan)
    | publishing t f => exact Nat.le_trans (hleft t hpaced) (Nat.succ_le_succ hspan)
  have hshare : share work ≤ 3 := by cases work <;> simp [share]
  have hanswers : w.stepBound (limit - w.now) =
      2 * ((limit - w.now + Ticker.tolerance + millisecond) /
        w.registry.config.frequency.nanos + w.answersLeft) + 16 := rfl
  rw [hanswers, budget]
  split <;> omega

/-! ### Turns in a span of time -/

/-- The turns that tasks take while time passes up to an instant. -/
def turnsUntil (fuel : Nat) (limit : Nat) (w : World) : List Turn :=
  match fuel with
  | 0 => []
  | fuel + 1 =>
    match w.publisher.living? with
    | none => []
    | some (task, cancelled, work) =>
      match w.step? cancelled work with
      | some (w', phase) =>
        ⟨task, work, w, w', phase⟩ ::
          turnsUntil fuel limit { w' with publisher := w'.publisher.proceed task phase }
      | none =>
        if work.wake ≤ limit then turnsUntil fuel limit { w with now := max w.now work.wake }
        else []

/-- The budget of the task that is next. -/
def need (w : World) (limit : Nat) : Nat :=
  match w.publisher.living? with
  | none => 0
  | some (_, _, work) => w.budget limit work

end World

end Simulation

/-- If there is no first task that lives, there is none at all. -/
theorem Lifecycle.not_lives_of_living?_eq_none {α : Type} {l : Lifecycle α}
    (h : l.living? = none) (task : Nat) : ¬ l.Lives task := by
  rintro ⟨cancelled, work, htask⟩
  rw [living?, List.findSome?_eq_none_iff] at h
  have hmem : ((⟨cancelled, .alive work⟩ : Task α), task) ∈ l.tasks.zipIdx :=
    List.mem_zipIdx_iff_getElem?.mpr htask
  cases h _ hmem

/-- A stage names one task at most. -/
theorem Lifecycle.Tracked.eq_of_lives {α : Type} {l : Lifecycle α} {i j : Nat} (h : l.Tracked)
    (hi : l.Lives i) (hj : l.Lives j) : i = j := by
  rcases h i hi with hs | hs <;> rcases h j hj with hs' | hs' <;> cases hs.symm.trans hs'
  · rfl
  · rfl

namespace Simulation

theorem Keeping.paced {frequency now : Nat} {work : Work} {ps ts rs : List Nat}
    (h : Keeping frequency now (some (.alive work)) ps ts rs) : World.Paced frequency work := by
  cases h with
  | arming => trivial
  | @waiting start ds p hp hsince htick =>
    rw [← hp]
    exact Pause.period_afterAll _ ds
  | @publishing start ds p f hp htick =>
    rw [← hp]
    exact Pause.period_afterAll _ ds

namespace SharedWorld

variable {w₀ w : World} {turns : List Turn} {stops : List StopCall} {limit fuel : Nat}

theorem frequency_pos (w : World) : 0 < w.registry.config.frequency.nanos := by
  have hzero := w.registry.usable.frequency_ne_zero
  rw [Duration.isZero, beq_eq_false_iff_ne] at hzero
  exact Nat.pos_of_ne_zero hzero

theorem TimedRun.tracked (hrun : TimedRun ⟨w₀, []⟩ turns ⟨w, stops⟩)
    (hnew : w₀.publisher = .new) : w.publisher.Tracked :=
  hrun.run.tracked (hnew ▸ Lifecycle.tracked_new)

theorem TimedRun.paced (hrun : TimedRun ⟨w₀, []⟩ turns ⟨w, stops⟩) (hnew : w₀.publisher = .new)
    {task : Nat} {cancelled : Bool} {work : Work}
    (htask : w.publisher.tasks[task]? = some ⟨cancelled, .alive work⟩) :
    World.Paced w.registry.config.frequency.nanos work := by
  have hlength : w₀.publisher.tasks.length ≤ task := by
    rw [hnew]
    exact Nat.zero_le _
  have hkeeps : SharedWorld.Keeps ⟨w, stops⟩ turns task := hrun.keeps (keeps_of_new hlength)
  have hphase : w.phase? task = some (.alive work) := by
    rw [World.phase?, htask, Option.map_some]
  rw [Keeps, hphase] at hkeeps
  exact hkeeps.paced

/-- Time passes as long as the task that is next has to wait.  No other task lives. -/
theorem TimedRun.wait (hrun : TimedRun ⟨w₀, []⟩ turns ⟨w, stops⟩) (hnew : w₀.publisher = .new)
    {instant : Nat} (hforward : w.now ≤ instant)
    (hwaits : ∀ task cancelled work, w.publisher.living? = some (task, cancelled, work) →
      w.step? cancelled work = none ∧ instant ≤ work.wake) :
    TimedRun ⟨w₀, []⟩ turns ⟨{ w with now := instant }, stops⟩ := by
  have hstep : Step true ⟨w, stops⟩ [] ⟨{ w with now := instant }, stops⟩ := .outside rfl
  have htime : w.OnTime { w with now := instant } := by
    refine ⟨rfl, hforward, fun _ task cancelled work htask => ?_⟩
    have hlives : w.publisher.Lives task := ⟨cancelled, work, htask⟩
    cases hliving : w.publisher.living? with
    | none => exact absurd hlives (Lifecycle.not_lives_of_living?_eq_none hliving task)
    | some next =>
      obtain ⟨task', cancelled', work'⟩ := next
      have htask' := Lifecycle.getElem?_of_living? hliving
      obtain rfl := (hrun.tracked hnew).eq_of_lives hlives ⟨cancelled', work', htask'⟩
      obtain ⟨rfl, hwork⟩ := Task.mk.inj (Option.some.inj (htask.symm.trans htask'))
      obtain rfl := Phase.alive.inj hwork
      exact hwaits task cancelled work hliving
  have hwait := TimedRun.step hrun hstep htime
  rwa [List.append_nil] at hwait

/-- After a step the task that is next is the one that took it, if any is. -/
theorem need_proceed (limit : Nat) (htracked : w.publisher.Tracked) {w' : World} {task : Nat}
    {cancelled : Bool} {work : Work} {phase : Phase Work}
    (hliving : w.publisher.living? = some (task, cancelled, work))
    (hstep : w.step? cancelled work = some (w', phase)) :
    ({ w' with publisher := w'.publisher.proceed task phase } : World).need limit ≤
      w'.phaseBudget limit phase := by
  have htask := Lifecycle.getElem?_of_living? hliving
  rw [World.need]
  dsimp only
  split
  · exact Nat.zero_le _
  · rename_i task' cancelled' work' hliving'
    have htask' := Lifecycle.getElem?_of_living? hliving'
    rw [(World.step?_frame hstep).1] at htask'
    have hlives := Lifecycle.lives_proceed ⟨cancelled, work, htask⟩ ⟨cancelled', work', htask'⟩
    obtain rfl := htracked.eq_of_lives hlives ⟨cancelled, work, htask⟩
    have hphase : phase = .alive work' := by
      simp only [Lifecycle.proceed, Lifecycle.modify, List.getElem?_modify, htask] at htask'
      exact (by simpa using htask' : cancelled = cancelled' ∧ phase = .alive work').2
    rw [hphase]
    exact Nat.le_refl _

/-- With enough fuel no tick is jumped over. -/
theorem TimedRun.runUntil (hrun : TimedRun ⟨w₀, []⟩ turns ⟨w, stops⟩) (hnew : w₀.publisher = .new)
    (hlimit : w.now ≤ limit) (hfuel : w.need limit ≤ fuel) :
    TimedRun ⟨w₀, []⟩ (turns ++ w.turnsUntil fuel limit) ⟨w.runUntil fuel limit, stops⟩ := by
  induction fuel generalizing w turns with
  | zero =>
    rw [World.turnsUntil, World.runUntil, List.append_nil]
    -- Without fuel no task lives: one that lives has a budget.
    refine hrun.wait hnew (Nat.le_max_left _ _) fun task cancelled work hliving => ?_
    rw [World.need, hliving] at hfuel
    exact absurd hfuel (Nat.not_le_of_lt (w.budget_pos limit work))
  | succ fuel ih =>
    rw [World.turnsUntil, World.runUntil]
    cases hliving : w.publisher.living? with
    | none =>
      rw [List.append_nil]
      refine hrun.wait hnew (Nat.le_max_left _ _) fun task cancelled work hliving' => ?_
      cases hliving.symm.trans hliving'
    | some next =>
      obtain ⟨task, cancelled, work⟩ := next
      have htask := Lifecycle.getElem?_of_living? hliving
      rw [World.need, hliving] at hfuel
      dsimp only at hfuel ⊢
      cases hstep : w.step? cancelled work with
      | some result =>
        obtain ⟨w', phase⟩ := result
        obtain ⟨-, hnow, hconfig⟩ := World.step?_frame hstep
        have hcost := World.phaseBudget_step? hstep (hrun.paced hnew htask) (frequency_pos w) hlimit
        have hneed := need_proceed limit (hrun.tracked hnew) hliving hstep
        have htime : w.OnTime { w' with publisher := w'.publisher.proceed task phase } :=
          .of_now_eq hconfig hnow
        have hturn := hrun.step (step_living stops hliving hstep) htime
        have hrest := ih hturn (hnow.le.trans hlimit) (by omega)
        rwa [List.append_assoc, List.singleton_append] at hrest
      | none =>
        have hwake := World.lt_wake_of_step?_eq_none hstep
        dsimp only
        split
        · rename_i hdue
          rw [Nat.max_eq_right hwake.le]
          have hwait := hrun.wait hnew hwake.le fun task' cancelled' work' hliving' => by
            cases hliving.symm.trans hliving'
            exact ⟨hstep, Nat.le_refl _⟩
          have hcost := World.budget_wait limit hwake
          have hneed : ({ w with now := work.wake } : World).need limit =
              ({ w with now := work.wake } : World).budget limit work := by
            rw [World.need, hliving]
          exact ih hwait hdue (by omega)
        · rename_i hdue
          rw [List.append_nil]
          refine hrun.wait hnew (Nat.le_max_left _ _) fun task' cancelled' work' hliving' => ?_
          cases hliving.symm.trans hliving'
          exact ⟨hstep, Nat.max_le.mpr ⟨hwake.le, (Nat.lt_of_not_le hdue).le⟩⟩

/-- **To let time pass keeps time.** -/
theorem TimedRun.advanceTo (hrun : TimedRun ⟨w₀, []⟩ turns ⟨w, stops⟩)
    (hnew : w₀.publisher = .new) (hlimit : w.now ≤ limit) :
    TimedRun ⟨w₀, []⟩ (turns ++ w.turnsUntil (w.stepBound (limit - w.now)) limit)
      ⟨w.advanceTo limit, stops⟩ := by
  refine hrun.runUntil hnew hlimit ?_
  rw [World.need]
  split
  · exact Nat.zero_le _
  · rename_i task cancelled work hliving
    have htask := Lifecycle.getElem?_of_living? hliving
    exact World.budget_le_stepBound (hrun.paced hnew htask) (frequency_pos w) hlimit

/-! ### The schedule of a task -/

end SharedWorld

theorem Keeping.onSchedule {n now start : Nat} {phase? : Option (Phase Work)}
    {ps ts rs : List Nat} (hn : 0 < n) (h : Keeping (n * millisecond) now phase? ps ts rs)
    (hstart : start ∈ ps) : OnSchedule start (n * millisecond) ts rs := by
  cases h with
  | unborn | arming | killed => cases hstart
  | @waiting start' ds p hp hsince htick =>
    obtain rfl := List.mem_singleton.mp hstart
    have hschedule : OnSchedule start (n * millisecond)
        ((Pause.first start (n * millisecond)).ticks (ds ++ []))
        ((Pause.first start (n * millisecond)).rests ds) := Pause.onSchedule hn (Nat.zero_le 1)
    rwa [List.append_nil] at hschedule
  | @publishing start' ds p f hp htick =>
    obtain rfl := List.mem_singleton.mp hstart
    have hschedule : OnSchedule start (n * millisecond)
        ((Pause.first start (n * millisecond)).ticks (ds ++ [0]))
        ((Pause.first start (n * millisecond)).rests ds) := Pause.onSchedule hn (Nat.le_refl 1)
    rwa [Pause.ticks_concat, hp] at hschedule
  | ended hlast =>
    obtain rfl := List.mem_singleton.mp hstart
    exact Pause.onSchedule hn hlast

/-- A task that has always worked in time does not miss the tick for which it waits. -/
theorem Keeping.le_tick {n now start : Nat} {t : Ticker} {ps ts rs : List Nat}
    (h : Keeping (n * millisecond) now (some (.alive (.waiting t))) ps ts rs) (hstart : start ∈ ps)
    (hshort : ∀ k a r : Nat, ts[k]? = some a → rs[k]? = some r → r ≤ a + n * millisecond) :
    now ≤ ceilMillis (start + (ts.length + 1) * (n * millisecond)) := by
  cases h with
  | @waiting start' ds p hp hsince htick =>
    obtain rfl := List.mem_singleton.mp hstart
    have hdone : ∀ k < ds.length, ∀ a r : Nat,
        ((Pause.first start (n * millisecond)).ticks (ds ++ []))[k]? = some a →
        ((Pause.first start (n * millisecond)).rests ds)[k]? = some r → r ≤ a + n * millisecond := by
      rw [List.append_nil]
      exact fun k _ => hshort k
    have hds := Pause.durations_le hdone
    rw [List.take_length] at hds
    rw [← hp, Pause.tick_of_short start hds] at htick
    rwa [Pause.length_ticks]

namespace SharedWorld

/-- **The ticks of a task are on schedule** in every run that keeps time, however long it works at
each of them; and as long as it works no longer than the time between ticks, none is missed. -/
theorem ticks_on_schedule {w : World} {turns : List Turn} {s : SharedWorld} {n task start : Nat}
    (hnew : w.publisher = .new) (hfrequency : w.registry.config.frequency.nanos = n * millisecond)
    (hrun : TimedRun ⟨w, []⟩ turns s) (hstart : start ∈ polls task turns) :
    OnSchedule start (n * millisecond) (ticks task turns) (rests task turns) ∧
      ∀ t, s.world.phase? task = some (.alive (.waiting t)) →
        (∀ k a r : Nat, (ticks task turns)[k]? = some a → (rests task turns)[k]? = some r →
          r ≤ a + n * millisecond) →
        s.world.now ≤ ceilMillis (start + ((ticks task turns).length + 1) * (n * millisecond)) := by
  have hlength : w.publisher.tasks.length ≤ task := by
    rw [hnew]
    exact Nat.zero_le _
  have hkeeps : s.Keeps turns task := hrun.keeps (keeps_of_new hlength)
  rw [Keeps, hrun.config, hfrequency] at hkeeps
  have hn : 0 < n := by
    have hpositive := frequency_pos w
    rw [hfrequency] at hpositive
    exact Nat.pos_of_mul_pos_right hpositive
  refine ⟨hkeeps.onSchedule hn hstart, fun t ht hshort => ?_⟩
  rw [ht] at hkeeps
  exact hkeeps.le_tick hstart hshort

/-- The first publish takes twelve milliseconds, and with it the second tick is late by two.  The
third one comes when it was meant to. -/
theorem ticks_after_slow_publish :
    let r : Registry := ⟨{ frequency := ⟨0, 10000000⟩, uri := "unix:/run/backend" }, by decide,
      [⟨Id.make "hits" [], .counter 3⟩]⟩
    let w : World := ⟨r, none, .scripted [⟨12, .outcome .accepted⟩], 0, .new, #[]⟩
    let w₁ := (w.start true).1
    let turns := w₁.turnsUntil (w₁.stepBound (35 * millisecond)) (35 * millisecond)
    TimedRun ⟨w, []⟩ turns ⟨w₁.advanceTo (35 * millisecond), []⟩ ∧
      ticks 0 turns = [10 * millisecond, 22 * millisecond, 30 * millisecond] ∧
      rests 0 turns = [22 * millisecond, 22 * millisecond, 30 * millisecond] ∧
      OnSchedule 0 (10 * millisecond) (ticks 0 turns) (rests 0 turns) := by
  intro r w w₁ turns
  have hstart : TimedRun ⟨w, []⟩ [] ⟨w₁, []⟩ := .single (.start true) (.of_now_eq rfl rfl)
  have hrun : TimedRun ⟨w, []⟩ turns ⟨w₁.advanceTo (35 * millisecond), []⟩ :=
    hstart.advanceTo rfl (Nat.zero_le _)
  have hpolls : polls 0 turns = [0] := by decide +kernel
  have hticks : ticks 0 turns = [10 * millisecond, 22 * millisecond, 30 * millisecond] := by
    decide +kernel
  have hrests : rests 0 turns = [22 * millisecond, 22 * millisecond, 30 * millisecond] := by
    decide +kernel
  have hfrequency : w.registry.config.frequency.nanos = 10 * millisecond := by decide +kernel
  obtain ⟨hschedule, -⟩ := ticks_on_schedule rfl hfrequency hrun (hpolls ▸ List.mem_singleton_self 0)
  exact ⟨hrun, hticks, hrests, hschedule⟩

end SharedWorld

end Simulation

end DimensionalMetrics
