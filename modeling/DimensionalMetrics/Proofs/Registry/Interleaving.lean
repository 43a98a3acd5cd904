import DimensionalMetrics.Proofs.Registry.Lookup

/-!
# A registry under many callers

Callers share a registry, and their calls run at the same time.  Each constructor of `Step` is
something that happens at once: a look-up, the entering of a meter, an update of one cell, the taking
of the contents of one cell.  A call that takes more than one step (getting a meter that was not found,
or a sweep) stands in the state as what it has still to do, so a `Run` is any interleaving of any
number of calls.  A sweep may find the meters in any order, and need not find those that are entered
while it begins; sweeps for a list of measurements, for a snapshot and for a delivery differ only in
what they make of the values.

What a step did is its `Deed`, which also holds what a caller was told.  `sweep_run` says that sweeps
without a pause are among the runs, whatever their order.
-/

namespace DimensionalMetrics

open Registry

/-- A registry with the calls on it that are under way. -/
structure Shared where
  registry : Registry
  /-- The holds that were given out. -/
  handles : List Handle
  /-- The look-ups that missed: what their callers are about to enter. -/
  misses : List (Id × Kind)
  /-- For each sweep under way, the positions that it has still to measure. -/
  sweeps : List (List Nat)

/-- What a step did. -/
inductive Deed where
  | missed (id : Id) (kind : Kind)
  | answered (id : Id) (kind : Kind) (answer : Except Error Handle)
  | updated (id : Id) (u : Update)
  | began (positions : List Nat)
  /-- A meter was measured, with the contents that its cell had, and this was reported. -/
  | measured (m : Meter) (reported : List Measurement)

namespace Shared

/-- A registry without meters, and nobody who uses it. -/
def new (config : Config) (usable : config.Valid) : Shared := ⟨⟨config, usable, []⟩, [], [], []⟩

/-- The holds that are given out once a caller has its answer. -/
def given (handles : List Handle) : Except Error Handle → List Handle
  | .ok h => h :: handles
  | .error _ => handles

/-- What can happen at once. -/
inductive Step : Shared → Deed → Shared → Prop where
  | find {s : Shared} {id : Id} {h : Handle} (kind : Kind)
      (hfound : s.registry.find? id = some h) :
      Step s (.answered id kind (h.expect id kind))
        { s with handles := given s.handles (h.expect id kind) }
  | miss {s : Shared} {id : Id} (kind : Kind) (hmissed : s.registry.find? id = none) :
      Step s (.missed id kind) { s with misses := (id, kind) :: s.misses }
  | enter {s : Shared} {id : Id} {kind : Kind} {before after : List (Id × Kind)}
      (hmisses : s.misses = before ++ (id, kind) :: after) :
      Step s (.answered id kind ((s.registry.enter id kind).2.expect id kind))
        { s with
          registry := (s.registry.enter id kind).1
          handles := given s.handles ((s.registry.enter id kind).2.expect id kind)
          misses := before ++ after }
  | update {s : Shared} {h : Handle} {m : Meter} {u : Update} (hheld : h ∈ s.handles)
      (hkind : u.kind = h.kind) (hmeter : s.registry.meters[h.position]? = some m) :
      Step s (.updated m.id u)
        { s with registry := s.registry.modify h.position (·.update u) }
  | begin {s : Shared} {positions : List Nat}
      (hfound : ∀ i ∈ positions, i < s.registry.meters.length) :
      Step s (.began positions) { s with sweeps := positions :: s.sweeps }
  | measure {s : Shared} {i : Nat} {rest : List Nat} {before after : List (List Nat)} {m : Meter}
      (hsweeps : s.sweeps = before ++ (i :: rest) :: after)
      (hmeter : s.registry.meters[i]? = some m) :
      Step s (.measured m (s.registry.measureAt i).2)
        { s with registry := (s.registry.measureAt i).1, sweeps := before ++ rest :: after }

/-- Steps in a row, and what they did. -/
inductive Run (start : Shared) : List Deed → Shared → Prop where
  | start : Run start [] start
  | step {deeds : List Deed} {s s' : Shared} {d : Deed} (hrun : Run start deeds s)
      (hstep : Step s d s') : Run start (deeds ++ [d]) s'

theorem Run.trans {a b c : Shared} {first second : List Deed} (hab : Run a first b)
    (hbc : Run b second c) : Run a (first ++ second) c := by
  induction hbc with
  | start => simpa using hab
  | step _ hstep ih =>
    rw [← List.append_assoc]
    exact .step ih hstep

/-- Before a meter is measured it is registered, with the contents that are taken, and what is
reported are the values of these. -/
theorem Run.before_measured {start s : Shared} {deeds before after : List Deed} {m : Meter}
    {reported : List Measurement} (hrun : Run start deeds s)
    (hdeeds : deeds = before ++ .measured m reported :: after) :
    ∃ s₀, Run start before s₀ ∧ m ∈ s₀.registry.meters ∧ reported = m.measurements := by
  induction hrun generalizing after with
  | start => simp at hdeeds
  | @step deeds s s' d hrun hstep ih =>
    -- The last deed is the measuring itself, or it comes after that.
    rcases List.eq_nil_or_concat after with rfl | ⟨rest, d', rfl⟩
    · obtain ⟨rfl, hd⟩ := List.append_inj' hdeeds rfl
      cases hd
      cases hstep with
      | measure hsweeps hmeter =>
        exact ⟨s, hrun, List.mem_of_getElem? hmeter, by rw [measureAt_of_getElem? hmeter]⟩
    · rw [List.concat_eq_append, ← List.cons_append, ← List.append_assoc] at hdeeds
      exact ih (List.append_inj' hdeeds rfl).1

/-! ### What a step does to the meters -/

/-- A step leaves the meters alone, adds a new one at the end, updates one or resets one. -/
inductive Effect (r : Registry) : Deed → Registry → Prop where
  | none {d : Deed} (hupdated : ∀ id u, d ≠ .updated id u)
      (hmeasured : ∀ m reported, d ≠ .measured m reported) : Effect r d r
  | added {id : Id} {kind : Kind} {answer : Except Error Handle} (hnew : r.find? id = none) :
      Effect r (.answered id kind answer) { r with meters := r.meters ++ [.fresh id kind] }
  | updated {i : Nat} {m : Meter} {u : Update} (hmeter : r.meters[i]? = some m)
      (hkind : u.kind = m.kind) : Effect r (.updated m.id u) (r.modify i (·.update u))
  | measured {i : Nat} {m : Meter} (hmeter : r.meters[i]? = some m) :
      Effect r (.measured m m.measurements) (r.modify i Meter.reset)

/-- What holds between steps: identities are not repeated, every hold has its meter and tells the
kind of it, and sweeps know only positions of meters. -/
structure Sound (s : Shared) : Prop where
  distinct : s.registry.Distinct
  held : ∀ h ∈ s.handles, ∃ m, s.registry.meters[h.position]? = some m ∧ m.kind = h.kind
  found : ∀ positions ∈ s.sweeps, ∀ i ∈ positions, i < s.registry.meters.length

theorem sound_new (config : Config) (usable : config.Valid) : (new config usable).Sound where
  distinct := List.nodup_nil
  held := by
    intro h hh
    exact absurd hh List.not_mem_nil
  found := by
    intro positions hp
    exact absurd hp List.not_mem_nil

theorem expect_eq_ok {h h' : Handle} {id : Id} {kind : Kind} (he : h.expect id kind = .ok h') :
    h' = h := by
  unfold Handle.expect at he
  split at he
  · exact (Except.ok.inj he).symm
  · cases he

theorem mem_given {handles : List Handle} {h h' : Handle} {id : Id} {kind : Kind}
    (hmem : h' ∈ given handles (h.expect id kind)) : h' = h ∨ h' ∈ handles := by
  rcases he : h.expect id kind with e | g
  · rw [he] at hmem
    exact .inr hmem
  · rw [he] at hmem
    rcases List.mem_cons.mp hmem with rfl | hmem
    · exact .inl (expect_eq_ok he)
    · exact .inr hmem

theorem Step.effect {s s' : Shared} {d : Deed} (hs : s.Sound) (hstep : Step s d s') :
    Effect s.registry d s'.registry := by
  cases hstep with
  | find kind hfound => exact .none (fun _ _ => nofun) fun _ _ => nofun
  | miss kind hmissed => exact .none (fun _ _ => nofun) fun _ _ => nofun
  | begin hfound => exact .none (fun _ _ => nofun) fun _ _ => nofun
  | @enter id kind before after hmisses =>
    rcases enter_cases s.registry id kind with ⟨h, -, he⟩ | ⟨hnone, he⟩
    · rw [he]
      exact .none (fun _ _ => nofun) fun _ _ => nofun
    · rw [he]
      exact .added hnone
  | @update h m u hheld hkind hmeter =>
    obtain ⟨m', hm', hk⟩ := hs.held h hheld
    obtain rfl : m' = m := Option.some.inj (hm'.symm.trans hmeter)
    exact .updated hmeter (hkind.trans hk.symm)
  | @measure i rest before after m hsweeps hmeter =>
    rw [measureAt_of_getElem? hmeter]
    exact .measured hmeter

/-! ### What a step keeps -/

theorem Effect.keeps {r r' : Registry} {d : Deed} (he : Effect r d r') : r.Keeps r' := by
  cases he with
  | none => exact Keeps.refl r
  | @added id kind answer hnew => exact r.keeps_append (.fresh id kind)
  | @updated i m u hmeter hkind =>
    refine r.keeps_modify i ?_ ?_
    · exact fun _ => rfl
    · exact fun a => Cell.kind_update a.cell u
  | @measured i m hmeter =>
    refine r.keeps_modify i ?_ ?_
    · exact fun _ => rfl
    · exact fun a => Cell.kind_reset a.cell

theorem Effect.distinct {r r' : Registry} {d : Deed} (he : Effect r d r') (hd : r.Distinct) :
    r'.Distinct := by
  cases he with
  | none => exact hd
  | @added id kind answer hnew =>
    have henter := hd.enter id kind
    rcases enter_cases r id kind with ⟨h, hf, -⟩ | ⟨-, he⟩
    · rw [hnew] at hf
      cases hf
    · rw [he] at henter
      exact henter
  | updated => exact hd.modify _ fun _ => rfl
  | measured => exact hd.modify _ fun _ => rfl

theorem Effect.length_le {r r' : Registry} {d : Deed} (he : Effect r d r') :
    r.meters.length ≤ r'.meters.length := by
  cases he with
  | none => exact Nat.le_refl _
  | added => simp
  | updated => simp [Registry.modify]
  | measured => simp [Registry.modify]

/-- Whatever is held has its meter, also after a step. -/
theorem Step.held {s s' : Shared} {d : Deed} (hs : s.Sound) (hstep : Step s d s') :
    ∀ h ∈ s'.handles, ∃ m, s'.registry.meters[h.position]? = some m ∧ m.kind = h.kind := by
  have hold : ∀ h ∈ s.handles, ∃ m, s'.registry.meters[h.position]? = some m ∧ m.kind = h.kind := by
    intro h hh
    obtain ⟨m, hm, hk⟩ := hs.held h hh
    obtain ⟨m', hm', -, hk'⟩ := (hstep.effect hs).keeps hm
    exact ⟨m', hm', hk'.trans hk⟩
  cases hstep with
  | @find id h kind hlookup =>
    intro h' hh'
    rcases mem_given hh' with rfl | hh'
    · obtain ⟨m, hm, -, hk⟩ := find?_spec hlookup
      exact ⟨m, hm, hk⟩
    · exact hold h' hh'
  | @enter id kind before after hmisses =>
    intro h' hh'
    rcases mem_given hh' with rfl | hh'
    · obtain ⟨m, hm, -, hk⟩ := enter_spec s.registry id kind
      exact ⟨m, hm, hk⟩
    · exact hold h' hh'
  | miss | update | begin | measure => exact hold

/-- Sweeps know only positions of meters, also after a step. -/
theorem Step.found {s s' : Shared} {d : Deed} (hs : s.Sound) (hstep : Step s d s') :
    ∀ positions ∈ s'.sweeps, ∀ i ∈ positions, i < s'.registry.meters.length := by
  have hold : ∀ positions ∈ s.sweeps, ∀ i ∈ positions, i < s'.registry.meters.length :=
    fun positions hp i hi =>
      Nat.lt_of_lt_of_le (hs.found positions hp i hi) (hstep.effect hs).length_le
  cases hstep with
  | @begin positions hnew =>
    intro ps hp
    rcases List.mem_cons.mp hp with rfl | hp
    · exact hnew
    · exact hold ps hp
  | @measure i rest before after m hsweeps hmeter =>
    intro ps hp j hj
    rcases List.mem_append.mp hp with hp | hp
    · exact hold ps (by rw [hsweeps]; exact List.mem_append_left _ hp) j hj
    · rcases List.mem_cons.mp hp with rfl | hp
      · exact hold (i :: ps) (by simp [hsweeps]) j (List.mem_cons_of_mem _ hj)
      · exact hold ps (by simp [hsweeps, hp]) j hj
  | find | miss | enter | update => exact hold

theorem Step.sound {s s' : Shared} {d : Deed} (hs : s.Sound) (hstep : Step s d s') : s'.Sound where
  distinct := (hstep.effect hs).distinct hs.distinct
  held := hstep.held hs
  found := hstep.found hs

theorem Run.sound {start s : Shared} {deeds : List Deed} (hstart : start.Sound)
    (hrun : Run start deeds s) : s.Sound := by
  induction hrun with
  | start => exact hstart
  | step _ hstep ih => exact hstep.sound ih

/-- Whoever holds a meter can update it, whatever the others do. -/
theorem Sound.exists_update {s : Shared} (hs : s.Sound) {h : Handle} (hh : h ∈ s.handles)
    {u : Update} (hkind : u.kind = h.kind) : ∃ d s', Step s d s' := by
  obtain ⟨m, hm, -⟩ := hs.held h hh
  exact ⟨_, _, .update hh hkind hm⟩

/-! ### Sweeps without a pause -/

/-- A sweep that nobody interrupts measures every meter as it was when the sweep began. -/
theorem run_measured {s : Shared} {before : List (List Nat)} {positions : List Nat}
    (hsweeps : s.sweeps = positions :: before) (hnodup : positions.Nodup)
    (hfound : ∀ i ∈ positions, i < s.registry.meters.length) :
    Run s ((positions.filterMap (s.registry.meters[·]?)).map fun m => .measured m m.measurements)
      { s with registry := measuredAt positions s.registry, sweeps := [] :: before } := by
  induction positions generalizing s with
  | nil =>
    obtain ⟨registry, handles, misses, sweeps⟩ := s
    obtain rfl : sweeps = [] :: before := hsweeps
    exact .start
  | cons i rest ih =>
    obtain ⟨hi, hrest⟩ := List.nodup_cons.mp hnodup
    obtain ⟨hlt, hfoundRest⟩ := List.forall_mem_cons.mp hfound
    obtain ⟨m, hm⟩ : ∃ m, s.registry.meters[i]? = some m := ⟨_, List.getElem?_eq_getElem hlt⟩
    have hreported : (s.registry.measureAt i).2 = m.measurements := by
      rw [measureAt_of_getElem? hm]
    have hfirst : Step s (.measured m m.measurements)
        { s with registry := (s.registry.measureAt i).1, sweeps := [] ++ rest :: before } :=
      hreported ▸ .measure hsweeps hm
    have hlength : (s.registry.measureAt i).1.meters.length = s.registry.meters.length :=
      List.length_modify _ _ _
    have hothers := ih (s := { s with
      registry := (s.registry.measureAt i).1
      sweeps := [] ++ rest :: before }) rfl hrest fun j hj => hlength ▸ hfoundRest j hj
    rw [filterMap_measureAt s.registry hi] at hothers
    rw [List.filterMap_cons_some hm]
    exact (Run.step .start hfirst).trans hothers

/-- **A sweep without a pause is a run**, in every order of the meters.  It reports what the steps
took, and leaves every meter reset. -/
theorem sweep_run (s : Shared) (o : s.registry.Order) :
    Run s (.began o.positions :: o.meters.map fun m => .measured m m.measurements)
      { s with registry := s.registry.sweep.1, sweeps := [] :: s.sweeps } := by
  have hfound : ∀ i ∈ o.positions, i < s.registry.meters.length :=
    fun _ hi => o.mem_positions_iff.mp hi
  have hrest := run_measured (s := { s with sweeps := o.positions :: s.sweeps }) rfl o.nodup hfound
  rw [measuredAt_order] at hrest
  rw [sweep_eq]
  exact (Run.step .start (.begin hfound)).trans hrest

end Shared

end DimensionalMetrics
