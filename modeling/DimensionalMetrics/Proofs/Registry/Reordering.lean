import DimensionalMetrics.Proofs.Meter.Exactness
import DimensionalMetrics.Proofs.Registry.Conservation

/-!
# Updates in any order

Each of many producers knows the order of its own updates, and none knows how they fall among those of
the others.  When the meter is measured, its cell has been through all of them in some one order.  For
updates that add up to at most `2 ^ 53` that order cannot be told from what is reported: every run in
which the same amounts were added since the last measuring reports the same numbers, and these are not
rounded.
-/

namespace DimensionalMetrics

/-! ### Producers -/

/-- A list that takes everything from some lists, each time from the front of one of them. -/
inductive Interleaves {α : Type} : List (List α) → List α → Prop where
  | done {sources : List (List α)} (hempty : ∀ xs ∈ sources, xs = []) : Interleaves sources []
  | step {before after : List (List α)} {x : α} {xs out : List α}
      (h : Interleaves (before ++ xs :: after) out) :
      Interleaves (before ++ (x :: xs) :: after) (x :: out)

/-- What comes from all the sources is there, and only the order is open. -/
theorem Interleaves.perm {α : Type} {sources : List (List α)} {out : List α}
    (h : Interleaves sources out) : out.Perm sources.flatten := by
  induction h with
  | done hempty => rw [List.flatten_eq_nil_iff.mpr hempty]
  | @step before after x xs out h ih =>
    rw [List.flatten_append, List.flatten_cons] at ih ⊢
    exact (ih.cons x).trans List.perm_middle.symm

/-! ### A meter that is measured -/

/-- At some point of some run a meter is measured after these updates, which are those since it was
measured before, and this is reported. -/
def Meter.MeasuredAfter (us : List Update) (reported : List Measurement) (m : Meter) : Prop :=
  ∃ (config : Config) (usable : config.Valid) (deeds : List Deed) (s : Shared)
    (before after : List Deed), Shared.Run (.new config usable) deeds s ∧
      deeds = before ++ .measured m reported :: after ∧
      CellEvent.pending (Deed.history m.id before) = us

namespace Meter

variable {m : Meter} {us : List Update} {reported : List Measurement}

theorem MeasuredAfter.reached (h : m.MeasuredAfter us reported) : reported = m.measurements ∧
    ∃ events, m.cell.Reached m.kind events ∧ CellEvent.pending events = us := by
  obtain ⟨config, usable, deeds, s, before, after, hrun, hdeeds, hpending⟩ := h
  obtain ⟨s₀, hrun₀, hm, hreported⟩ := hrun.before_measured hdeeds
  obtain ⟨i, hi⟩ := List.mem_iff_getElem?.mp hm
  exact ⟨hreported, _, hrun₀.follows.reached hi, hpending⟩

/-- A meter that is registered can be measured at once. -/
theorem measuredAfter_of_mem {config : Config} {usable : config.Valid} {deeds : List Deed}
    {s : Shared} (hrun : Shared.Run (.new config usable) deeds s) (hm : m ∈ s.registry.meters) :
    ∃ reported, m.MeasuredAfter (CellEvent.pending (Deed.history m.id deeds)) reported := by
  obtain ⟨i, hi⟩ := List.mem_iff_getElem?.mp hm
  obtain ⟨hlt, -⟩ := List.getElem?_eq_some_iff.mp hi
  have hbegun : Shared.Run (.new config usable) (deeds ++ [.began [i]])
      { s with sweeps := [i] :: s.sweeps } :=
    hrun.step (.begin (List.forall_mem_singleton.mpr hlt))
  have hmeasured := hbegun.step (.measure (show _ = [] ++ [i] :: s.sweeps from rfl) hi)
  have hquiet : Deed.history m.id (deeds ++ [.began [i]]) = Deed.history m.id deeds :=
    Deed.history_append_of_none rfl deeds
  exact ⟨_, config, usable, _, _, deeds ++ [.began [i]], [], hmeasured, rfl, hquiet ▸ rfl⟩

end Meter

/-! ### Every list of updates -/

theorem CellEvent.pending_map_update (us : List Update) : pending (us.map update) = us := by
  induction us using List.reverseRecOn with
  | nil => rfl
  | append_singleton us u ih =>
    rw [List.map_append, List.map_singleton, pending_update, ih]

/-- Whoever holds a meter can update it any number of times. -/
theorem Shared.exists_run_updated {s : Shared} {h : Registry.Handle} {m : Meter} {us : List Update}
    (hheld : h ∈ s.handles) (hmeter : s.registry.meters[h.position]? = some m)
    (hkind : ∀ u ∈ us, u.kind = h.kind) :
    ∃ s' m', Run s (us.map (.updated m.id)) s' ∧ s'.registry.meters[h.position]? = some m' ∧
      m'.id = m.id ∧ m'.kind = m.kind := by
  induction us generalizing s m with
  | nil => exact ⟨s, m, .start, hmeter, rfl, rfl⟩
  | cons u us ih =>
    rw [List.forall_mem_cons] at hkind
    have hupdated : (s.registry.modify h.position (·.update u)).meters[h.position]? =
        some (m.update u) := by
      simp [Registry.modify, hmeter]
    obtain ⟨s', m', hrun, hm', hid, hk⟩ :=
      ih (s := { s with registry := s.registry.modify h.position (·.update u) }) hheld hupdated
        hkind.2
    have hfirst : Run s [.updated m.id u] _ := .step .start (.update hheld hkind.1 hmeter)
    exact ⟨s', m', hfirst.trans hrun, hm', hid, hk.trans (Cell.kind_update m.cell u)⟩

/-- Every list of updates of one kind can be what a meter is measured after. -/
theorem Meter.exists_measuredAfter (id : Id) {kind : Kind} {us : List Update}
    (hkind : ∀ u ∈ us, u.kind = kind) :
    ∃ (m : Meter) (reported : List Measurement),
      m.MeasuredAfter us reported ∧ m.id = id ∧ m.kind = kind := by
  have usable : Config.Valid {} := by decide
  let h : Registry.Handle := ⟨0, kind⟩
  let s : Shared := ⟨⟨{}, usable, [.fresh id kind]⟩, Shared.given [] (h.expect id kind), [], []⟩
  have hmissed : Shared.Run (.new {} usable) [.missed id kind]
      ⟨⟨{}, usable, []⟩, [], [(id, kind)], []⟩ := .step .start (.miss kind rfl)
  have hentered : Shared.Run _ _ s :=
    hmissed.step (.enter (show _ = [] ++ (id, kind) :: [] from rfl))
  have hheld : h ∈ s.handles := by
    have hexpect : h.expect id kind = .ok h := if_pos rfl
    show h ∈ Shared.given [] (h.expect id kind)
    rw [hexpect]
    exact List.mem_singleton_self h
  obtain ⟨s', m, hrun, hm, rfl, hk⟩ :=
    Shared.exists_run_updated (h := h) (s := s) (m := .fresh id kind) hheld rfl hkind
  obtain ⟨reported, hmeasured⟩ :=
    measuredAfter_of_mem (hentered.trans hrun) (List.mem_of_getElem? hm)
  have hhistory : Deed.history m.id (us.map (.updated m.id)) = us.map .update := by
    simp [Deed.history, List.filterMap_map, Function.comp_def, Deed.cellEvent?]
  have hpending : CellEvent.pending (Deed.history m.id (us.map (.updated m.id))) = us := by
    rw [hhistory, CellEvent.pending_map_update]
  exact ⟨m, reported, hpending ▸ hmeasured, rfl, hk.trans (Cell.kind_fresh kind)⟩

/-! ### What is reported -/

/-- A measurement is exactly a natural number, under its statistic. -/
structure Measurement.IsExactly (id : Id) (x : Measurement) (e : Statistic × Nat) : Prop where
  id_eq : x.id = id
  statistic_eq : x.statistic = e.1
  isNat : x.value.IsNat e.2

namespace Meter

variable {m : Meter} {us : List Update} {reported : List Measurement}

theorem MeasuredAfter.reported_eq (h : m.MeasuredAfter us reported)
    (hfits : m.kind.Fits (Update.contributions us)) : reported =
      (m.kind.exactValues (Update.contributions us)).map fun e => ⟨m.id, e.1, .ofNat e.2⟩ := by
  obtain ⟨rfl, events, hreached, rfl⟩ := h.reached
  rw [measurements, hreached.values_eq hfits, List.map_map]
  rfl

theorem MeasuredAfter.isExactly (h : m.MeasuredAfter us reported)
    (hfits : m.kind.Fits (Update.contributions us)) : List.Forall₂ (Measurement.IsExactly m.id)
      reported (m.kind.exactValues (Update.contributions us)) := by
  rw [h.reported_eq hfits, List.forall₂_map_left_iff, List.forall₂_same]
  intro e he
  exact ⟨rfl, rfl, Binary64.isNat_ofNat (hfits.le he)⟩

end Meter

/-- **Small sums are exact in any order.**  Take updates of one kind, of which the exact sums are at most
`2 ^ 53`.  A meter can be measured after them, and there is one list of measurements that it then
reports, each of which is exactly the natural number that it should be.  The same list is reported after
any other order of the updates, and so however the updates of many producers fall among each other.
Looks at the meter and amounts that are not accepted may come anywhere. -/
theorem small_sums_exact_in_any_order (id : Id) {kind : Kind} {us : List Update}
    (hkind : ∀ u ∈ us, u.kind = kind) (hfits : kind.Fits (Update.contributions us)) :
    ∃ reported : List Measurement,
      List.Forall₂ (Measurement.IsExactly id) reported
        (kind.exactValues (Update.contributions us)) ∧
      (∃ m : Meter, m.MeasuredAfter us reported ∧ m.id = id ∧ m.kind = kind) ∧
      ∀ (m : Meter) (us' : List Update) (reported' : List Measurement),
        m.MeasuredAfter us' reported' → m.id = id → m.kind = kind →
        ((Update.contributions us').Perm (Update.contributions us) ∨
          ∃ producers, Interleaves producers us ∧ Interleaves producers us') →
        reported' = reported := by
  obtain ⟨m₀, reported, hm₀, rfl, rfl⟩ := Meter.exists_measuredAfter id hkind
  refine ⟨reported, hm₀.isExactly hfits, ⟨m₀, hm₀, rfl, rfl⟩, ?_⟩
  intro m us' reported' hm hid hk horder
  have hperm : (Update.contributions us').Perm (Update.contributions us) := by
    rcases horder with hperm | ⟨producers, hus, hus'⟩
    · exact hperm
    · exact (hus'.perm.trans hus.perm.symm).filterMap _
  have hfits' : m.kind.Fits (Update.contributions us') := hk ▸ hfits.perm hperm.symm
  rw [hm.reported_eq hfits', hm₀.reported_eq hfits, hid, hk, Kind.exactValues_perm hperm]

/-- One producer records an amount and then a negative one, and another producer records an amount
after them or before. -/
theorem amounts_exact_in_two_orders :
    ∃ (m m' : Meter) (reported : List Measurement),
      m.MeasuredAfter [.recordAmount 3, .recordAmount (-1), .recordAmount 4] reported ∧
      m'.MeasuredAfter [.recordAmount 4, .recordAmount 3, .recordAmount (-1)] reported ∧
      List.Forall₂ (Measurement.IsExactly (Id.make "payload.size" [])) reported
        [(.count, 2), (.totalAmount, 7), (.totalOfSquares, 25), (.max, 4)] := by
  let id := Id.make "payload.size" []
  let a : Update := .recordAmount 3
  let b : Update := .recordAmount (-1)
  let c : Update := .recordAmount 4
  have hkind : ∀ u ∈ [a, b, c], u.kind = .distributionSummary := by decide
  have hkind' : ∀ u ∈ [c, a, b], u.kind = .distributionSummary := by decide
  have hsums : Update.contributions [a, b, c] = [3, 4] := by decide
  have hfits : Kind.distributionSummary.Fits (Update.contributions [a, b, c]) := by
    rw [hsums]
    exact ⟨by decide, by decide⟩
  have hnone : Interleaves [[], []] ([] : List Update) := .done (by decide)
  have hafter : Interleaves [[a, b], [c]] [a, b, c] :=
    @Interleaves.step _ [] [[c]] a [b] _
      (@Interleaves.step _ [] [[c]] b [] _ (@Interleaves.step _ [[]] [] c [] _ hnone))
  have hbefore : Interleaves [[a, b], [c]] [c, a, b] :=
    @Interleaves.step _ [[a, b]] [] c [] _
      (@Interleaves.step _ [] [[]] a [b] _ (@Interleaves.step _ [] [[]] b [] _ hnone))
  obtain ⟨m', reported', hm', hid, hk⟩ := Meter.exists_measuredAfter id hkind'
  obtain ⟨reported, hexact, ⟨m, hm, -⟩, hsame⟩ := small_sums_exact_in_any_order id hkind hfits
  obtain rfl := hsame m' _ _ hm' hid hk (.inr ⟨_, hafter, hbefore⟩)
  rw [hsums] at hexact
  exact ⟨m, m', _, hm, hm', hexact⟩

end DimensionalMetrics
