import DimensionalMetrics.Proofs.Publisher.Delivery
import DimensionalMetrics.Simulation.World

/-!
# A publish in a world

In a world a publish goes on until an answer takes time, and is taken up again when the answer is there;
in between the world may have become another one.  However often that happens, the events of the publish
are those of one uninterrupted `Registry.publish` under the answers that came.
-/

namespace DimensionalMetrics

namespace Delivery

/-- The delivery after some answers. -/
def after (d : Delivery) : List Outcome → Delivery
  | [] => d
  | o :: outcomes =>
    match d.waiting with
    | [] => d
    | payload :: rest => (d.settle payload rest o).after outcomes

variable {d : Delivery} {payload : Payload} {rest : List Payload}

theorem after_cons (h : d.waiting = payload :: rest) (o : Outcome) (outcomes : List Outcome) :
    d.after (o :: outcomes) = (d.settle payload rest o).after outcomes := by
  simp only [after, h]

theorem after_of_nil (h : d.waiting = []) (outcomes : List Outcome) : d.after outcomes = d := by
  cases outcomes <;> simp only [after, h]

theorem after_append (d : Delivery) (outcomes more : List Outcome) :
    d.after (outcomes ++ more) = (d.after outcomes).after more := by
  induction outcomes generalizing d with
  | nil => rfl
  | cons o outcomes ih =>
    cases hw : d.waiting with
    | nil => rw [after_of_nil hw, after_of_nil hw, after_of_nil hw]
    | cons payload rest => rw [List.cons_append, after_cons hw, after_cons hw, ih]

theorem waiting_after (d : Delivery) (outcomes : List Outcome) :
    (d.after outcomes).waiting = d.waiting.drop outcomes.length := by
  induction outcomes generalizing d with
  | nil => rfl
  | cons o outcomes ih =>
    cases hw : d.waiting with
    | nil => rw [after_of_nil hw, hw, List.drop_nil]
    | cons payload rest => rw [after_cons hw, ih, waiting_settle, List.length_cons, List.drop_succ_cons]

/-- A delivery that was waiting for an answer goes on from where it stood. -/
theorem run_append {outcomes : List Outcome} (hpaused : outcomes.length < d.waiting.length)
    (hafter : (d.after outcomes).waiting = payload :: rest) (o : Outcome) (more : List Outcome) :
    d.run (outcomes ++ o :: more) = d.run outcomes ++
      (((d.after outcomes).remarks payload o).map .notice ++
        ((d.after outcomes).settle payload rest o).run more) := by
  induction outcomes generalizing d with
  | nil =>
    have hw : d.waiting = payload :: rest := hafter
    rw [List.nil_append, run_cons hw, run_pause hw]
    rfl
  | cons o' outcomes ih =>
    cases hw : d.waiting with
    | nil =>
      rw [hw] at hpaused
      exact absurd hpaused (Nat.not_lt_zero _)
    | cons payload' rest' =>
      rw [after_cons hw] at hafter ⊢
      rw [hw, List.length_cons, List.length_cons] at hpaused
      have hrest := ih (d := d.settle payload' rest' o') (by rw [waiting_settle]; omega) hafter
      rw [List.cons_append, run_cons hw, run_cons hw, hrest]
      simp only [List.cons_append, List.append_assoc]

end Delivery

namespace Simulation

/-- A publish has come to its end, or to a request that is not answered yet, after some answers. -/
def Progress.Reached (d : Delivery) (outcomes : List Outcome) : Progress → Prop
  | finished => d.waiting.length ≤ outcomes.length
  | flying f => outcomes.length < d.waiting.length ∧ f.delivery = d.after outcomes
  | crashed _ => False

/-- The answer to the waiting request, and those after it. -/
theorem Progress.Reached.append {d : Delivery} {payload : Payload} {rest : List Payload}
    {outcomes more : List Outcome} {o : Outcome} {p : Progress}
    (hafter : (d.after outcomes).waiting = payload :: rest)
    (h : p.Reached ((d.after outcomes).settle payload rest o) more) :
    p.Reached d (outcomes ++ o :: more) := by
  have hlength : d.waiting.length = outcomes.length + (rest.length + 1) := by
    have hdrop := congrArg List.length hafter
    rw [Delivery.waiting_after, List.length_drop, List.length_cons] at hdrop
    omega
  cases p with
  | finished =>
    have hrest : rest.length ≤ more.length := by simpa [Reached] using h
    simp only [Reached, hlength, List.length_append, List.length_cons]
    omega
  | flying f =>
    obtain ⟨hpaused, hdelivery⟩ := h
    rw [Delivery.waiting_settle] at hpaused
    refine ⟨?_, ?_⟩
    · rw [hlength, List.length_append, List.length_cons]
      omega
    · rw [hdelivery, Delivery.after_append, Delivery.after_cons hafter]
  | crashed reason => exact h

namespace World

theorem events_say (w : World) (notices : List Notice) :
    (w.say notices).events.toList = w.events.toList ++ notices.map Event.notice := by
  simp [say]

theorem events_send {w : World} (hbackend : w.backend ≠ .web) (c : Call) :
    (w.send c).1.events.toList = w.events.toList ++ [.call c] ∧ (w.send c).1.backend ≠ .web := by
  cases hb : w.backend with
  | web => exact absurd hb hbackend
  | scripted answers => simp [send, hb]

theorem pursue_of_nil {d : Delivery} (h : d.waiting = []) (w : World) :
    w.pursue d = (w.say [d.summary], .finished) := by
  rw [pursue]
  split
  · rfl
  · rename_i hw
    rw [h] at hw
    cases hw

theorem pursue_cons {d : Delivery} {payload : Payload} {rest : List Payload}
    (h : d.waiting = payload :: rest) (w : World) :
    w.pursue d =
      if (w.send (d.call payload)).2.delay = 0 then
        match (w.send (d.call payload)).2.verdict with
        | .crash reason => ((w.send (d.call payload)).1, .crashed reason)
        | .outcome o => ((w.send (d.call payload)).1.say (d.remarks payload o)).pursue
            (d.settle payload rest o)
      else ((w.send (d.call payload)).1,
        .flying ⟨(w.send (d.call payload)).1.now + (w.send (d.call payload)).2.delay * millisecond,
          (w.send (d.call payload)).2.verdict, d⟩) := by
  rw [pursue]
  split
  · rename_i hw
    rw [h] at hw
    cases hw
  · rename_i hw
    rw [h] at hw
    cases hw
    rfl

/-- What happens until an answer takes time. -/
theorem pursue_spec {w : World} (hbackend : w.backend ≠ .web) (d : Delivery)
    (hp : ∀ reason, (w.pursue d).2 ≠ .crashed reason) :
    ∃ outcomes, (w.pursue d).2.Reached d outcomes ∧
      (w.pursue d).1.events.toList = w.events.toList ++ d.run outcomes := by
  obtain ⟨n, hn⟩ : ∃ n, n = d.waiting.length := ⟨_, rfl⟩
  induction n generalizing w d with
  | zero =>
    have hw : d.waiting = [] := List.eq_nil_of_length_eq_zero hn.symm
    refine ⟨[], ?_, ?_⟩
    · rw [pursue_of_nil hw, Progress.Reached, hw]
      exact Nat.le_refl _
    · rw [pursue_of_nil hw, events_say, Delivery.run_of_nil hw]
      rfl
  | succ n ih =>
    obtain ⟨payload, rest, hw⟩ : ∃ payload rest, d.waiting = payload :: rest :=
      List.exists_cons_of_length_eq_add_one hn.symm
    obtain ⟨hevents, hbackend'⟩ := events_send hbackend (d.call payload)
    by_cases hdelay : (w.send (d.call payload)).2.delay = 0
    · cases hv : (w.send (d.call payload)).2.verdict with
      | crash reason =>
        refine absurd ?_ (hp reason)
        rw [pursue_cons hw, if_pos hdelay, hv]
      | outcome o =>
        have hpursue : w.pursue d = ((w.send (d.call payload)).1.say (d.remarks payload o)).pursue
            (d.settle payload rest o) := by
          rw [pursue_cons hw, if_pos hdelay, hv]
        have hn' : n = (d.settle payload rest o).waiting.length := by
          rw [hw, List.length_cons] at hn
          rw [Delivery.waiting_settle]
          omega
        rw [hpursue] at hp ⊢
        obtain ⟨outcomes, hreached, hrest⟩ :=
          ih (w := (w.send (d.call payload)).1.say (d.remarks payload o)) hbackend' _ hp hn'
        refine ⟨o :: outcomes, @Progress.Reached.append d _ _ [] _ _ _ hw hreached, ?_⟩
        rw [hrest, events_say, hevents, Delivery.run_cons hw]
        simp only [List.append_assoc, List.cons_append, List.nil_append]
    · refine ⟨[], ?_, ?_⟩
      · rw [pursue_cons hw, if_neg hdelay]
        refine ⟨?_, rfl⟩
        rw [hw]
        exact Nat.succ_pos _
      · rw [pursue_cons hw, if_neg hdelay, Delivery.run_pause hw]
        exact hevents

/-- A publish that began in a world, however far it has come, and the events that are its own.  The
worlds in which its answers arrive may be any worlds. -/
inductive Publishing (w : World) : Progress → List Event → Prop
  | begun {w' : World} {p : Progress} {es : List Event} (hbackend : w.backend ≠ .web)
      (hpublish : w.publish = (w', p)) (hes : w'.events.toList = w.events.toList ++ es) :
      Publishing w p es
  | answered {f : Flight} {v v' : World} {p : Progress} {es es' : List Event}
      (h : Publishing w (.flying f) es) (hbackend : v.backend ≠ .web) (hland : v.land f = (v', p))
      (hes : v'.events.toList = v.events.toList ++ es') : Publishing w p (es ++ es')

/-- What happens when a request is answered. -/
theorem land_spec {v : World} (hbackend : v.backend ≠ .web) {f : Flight} {d : Delivery}
    {outcomes : List Outcome} (hf : (Progress.flying f).Reached d outcomes)
    (hp : ∀ reason, (v.land f).2 ≠ .crashed reason) :
    ∃ more, (v.land f).2.Reached d more ∧
      ∃ es, (v.land f).1.events.toList = v.events.toList ++ es ∧ d.run more = d.run outcomes ++ es := by
  obtain ⟨hpaused, hdelivery⟩ := hf
  obtain ⟨payload, rest, hw⟩ : ∃ payload rest, (d.after outcomes).waiting = payload :: rest := by
    apply List.exists_cons_of_ne_nil
    rw [Delivery.waiting_after, Ne, List.drop_eq_nil_iff]
    omega
  cases hv : f.verdict with
  | crash reason =>
    refine absurd ?_ (hp reason)
    simp only [land, hv]
  | outcome o =>
    have hland : v.land f = (v.say ((d.after outcomes).remarks payload o)).pursue
        ((d.after outcomes).settle payload rest o) := by
      simp only [land, hv, hdelivery, hw]
    rw [hland] at hp ⊢
    obtain ⟨more, hreached, hevents⟩ := pursue_spec
      (w := v.say ((d.after outcomes).remarks payload o)) hbackend _ hp
    refine ⟨outcomes ++ o :: more, Progress.Reached.append hw hreached, _, ?_,
      Delivery.run_append hpaused hw o more⟩
    rw [hevents, events_say, List.append_assoc]

theorem publish_of_sending {w : World} {d : Delivery}
    (h : (w.registry.beginPublish w.registry.ownOrder w.permission).2.2 = .sending d) :
    w.publish = (({ w with
      registry := (w.registry.beginPublish w.registry.ownOrder w.permission).1 } : World).say
        (w.registry.beginPublish w.registry.ownOrder w.permission).2.1).pursue d := by
  simp only [publish, h]

/-- **A publish in a world is a publish of its registry** under the answers that came. -/
theorem Publishing.exists_outcomes {w : World} {p : Progress} {es : List Event}
    (h : w.Publishing p es) (hp : ∀ reason, p ≠ .crashed reason) {d : Delivery}
    (hd : (w.registry.beginPublish w.registry.ownOrder w.permission).2.2 = .sending d) :
    ∃ outcomes, p.Reached d outcomes ∧ es = (w.registry.publish w.permission outcomes).2 := by
  have hevents : ∀ outcomes, (w.registry.publish w.permission outcomes).2 =
      (w.registry.beginPublish w.registry.ownOrder w.permission).2.1.map .notice ++
        d.run outcomes := by
    intro outcomes
    simp only [Registry.publish, Registry.publishAlong, hd]
  induction h with
  | @begun w' p es hbackend hpublish hes =>
    rw [publish_of_sending hd] at hpublish
    obtain ⟨outcomes, hreached, hrun⟩ := pursue_spec (w := ({ w with
      registry := (w.registry.beginPublish w.registry.ownOrder w.permission).1 } : World).say
        (w.registry.beginPublish w.registry.ownOrder w.permission).2.1) hbackend d (by rwa [hpublish])
    rw [hpublish] at hreached hrun
    refine ⟨outcomes, hreached, ?_⟩
    rw [hes, events_say, List.append_assoc] at hrun
    rw [hevents]
    exact List.append_cancel_left hrun
  | @answered f v v' p es es' hbefore hbackend hland hes ih =>
    obtain ⟨outcomes, hreached, hrun⟩ := ih (by simp)
    obtain ⟨more, hreached', es'', hes'', hmore⟩ := land_spec hbackend hreached (by rwa [hland])
    rw [hland] at hreached' hes''
    refine ⟨more, hreached', ?_⟩
    rw [hes] at hes''
    rw [hevents, hmore, hrun, hevents, List.append_cancel_left hes'', List.append_assoc]

end World

end Simulation

end DimensionalMetrics
