import DimensionalMetrics.Proofs.Json.Nulls
import DimensionalMetrics.Proofs.Meter.Bounds
import DimensionalMetrics.Proofs.Registry.Conservation
import DimensionalMetrics.Proofs.Registry.Sweeps
import DimensionalMetrics.Snapshot.Reader

/-!
# Fetching a snapshot

Whoever fetches a snapshot reads the text of its JSON.  All of it comes back, unless a value is not
finite: that is written as `null`, and a reader who expects a number fails.  Only gauges that were
set to an infinity have such values, so the fetch succeeds exactly if there is none of them, in
whatever order and at whatever times the meters are visited.
-/

namespace DimensionalMetrics

/-- A reader that undoes a writer, item by item, where something is true of the item. -/
theorem mapM_map_eq_ite {α β : Type} {f : α → β} {g : β → Option α} {p : α → Prop}
    [DecidablePred p] (h : ∀ a, g (f a) = if p a then some a else none) (xs : List α) :
    (xs.map f).mapM g = if ∀ a ∈ xs, p a then some xs else none := by
  induction xs with
  | nil => simp
  | cons a xs ih =>
    rw [List.map_cons, List.mapM_cons, h, ih]
    by_cases ha : p a
    · by_cases hxs : ∀ b ∈ xs, p b
      · have hall : ∀ b ∈ a :: xs, p b := by
          intro b hb
          rcases List.mem_cons.mp hb with rfl | hb
          · exact ha
          · exact hxs b hb
        rw [if_pos ha, if_pos hxs, if_pos hall]
        rfl
      · have hnot : ¬ ∀ b ∈ a :: xs, p b := fun hall => hxs fun b hb =>
          hall b (List.mem_cons_of_mem _ hb)
        rw [if_pos ha, if_neg hxs, if_neg hnot]
        rfl
    · have hnot : ¬ ∀ b ∈ a :: xs, p b := fun hall => ha (hall a List.mem_cons_self)
      rw [if_neg ha, if_neg hnot]
      rfl

namespace Snapshot

/-! ### Reading what was written -/

theorem kindOfName?_name (kind : Kind) : kindOfName? kind.name = some kind := by
  cases kind <;> decide

theorem readTag?_tagJson (t : Tag) : readTag? (tagJson t).withNulls = some t := rfl

theorem readValue?_valueJson (v : TaggedValue) :
    readValue? (valueJson v).withNulls = if v.value.isFinite then some v else none := by
  have htags : (v.tags.toList.map fun t => (tagJson t).withNulls).mapM readTag? =
      some v.tags.toList := by
    have hread := mapM_map_eq_ite (p := fun _ => True) (f := fun t => (tagJson t).withNulls)
      (fun t => (readTag?_tagJson t).trans (if_pos trivial).symm) v.tags.toList
    rwa [if_pos fun _ _ => trivial] at hread
  simp only [valueJson, Json.withNulls, Json.membersWithNulls, Json.itemsWithNulls,
    Json.itemsWithNulls_eq_map, List.map_map]
  by_cases hv : v.value.isFinite = true
  · rw [if_pos hv, if_pos hv]
    simp only [readValue?, Function.comp_def, htags, Option.map_some, Tags.ofList_toList]
  · rw [if_neg hv, if_neg hv]
    rfl

theorem readMetric?_metricJson (m : MetricSnapshot) : readMetric? (metricJson m).withNulls =
    if ∀ v ∈ m.values, v.value.isFinite then some m else none := by
  have hvalues := mapM_map_eq_ite readValue?_valueJson m.values
  simp only [metricJson, Json.withNulls, Json.membersWithNulls, Json.itemsWithNulls_eq_map,
    List.map_map, readMetric?, kindOfName?_name, Function.comp_def, hvalues]
  split <;> rfl

theorem ofJson?_toJson (s : Snapshot) : ofJson? s.toJson.withNulls =
    if ∀ p ∈ s, ∀ v ∈ p.2.values, v.value.isFinite then some s else none := by
  have hmember : ∀ p : String × MetricSnapshot,
      (readMetric? (metricJson p.2).withNulls).map (fun m => (p.1, m)) =
        if ∀ v ∈ p.2.values, v.value.isFinite then some p else none := by
    intro p
    rw [readMetric?_metricJson]
    split <;> rfl
  have hread := mapM_map_eq_ite (f := fun p => (p.1, (metricJson p.2).withNulls))
    (g := fun m => (readMetric? m.2).map fun x => (m.1, x)) hmember s
  rw [toJson, Json.withNulls, Json.membersWithNulls_eq_map, List.map_map]
  exact hread

/-- A snapshot is read back from its text if all its values are finite, and otherwise nothing is. -/
theorem read?_text (s : Snapshot) : read? s.toJson.text =
    if ∀ p ∈ s, ∀ v ∈ p.2.values, v.value.isFinite then some s else none := by
  rw [read?, Json.read?_text_eq_withNulls]
  exact ofJson?_toJson s

/-! ### Snapshots of registries -/

theorem mem_entries {s : Snapshot} {name : String} {v : TaggedValue} :
    (name, v) ∈ s.entries ↔ ∃ m, (name, m) ∈ s ∧ v ∈ m.values := by
  simp only [entries, List.mem_flatMap, List.mem_map, Prod.mk.injEq, Prod.exists]
  constructor
  · rintro ⟨n, m, hm, w, hw, rfl, rfl⟩
    exact ⟨m, hm, hw⟩
  · rintro ⟨m, hm, hv⟩
    exact ⟨name, m, hm, v, hv, rfl, rfl⟩

end Snapshot

namespace Registry

/-- What a snapshot shows are the values of the meters. -/
theorem mem_entries_exportAlong {r : Registry} (o : r.Order) (clock : Id → Nat)
    {e : String × TaggedValue} : e ∈ (r.exportAlong o clock).2.entries ↔
      ∃ m ∈ r.meters, ∃ v ∈ m.cell.values, e = (m.id.name,
        (⟨m.id, v.1, v.2⟩ : Measurement).tagged r.config.commonTags (clock m.id)) := by
  rw [(r.agreeAlong o clock).entries.mem_iff, sweepAlong_eq]
  simp only [List.mem_map, List.mem_flatMap, o.meters_perm.mem_iff]
  constructor
  · rintro ⟨x, ⟨m, hm, hx⟩, rfl⟩
    obtain ⟨v, hv, rfl⟩ := List.mem_map.mp hx
    exact ⟨m, hm, v, hv, rfl⟩
  · rintro ⟨m, hm, v, hv, rfl⟩
    exact ⟨_, ⟨m, hm, List.mem_map.mpr ⟨v, hv, rfl⟩⟩, rfl⟩

theorem allFinite_exportAlong_iff {r : Registry} (hbounded : ∀ m ∈ r.meters, m.cell.Bounded)
    (o : r.Order) (clock : Id → Nat) :
    (∀ p ∈ (r.exportAlong o clock).2, ∀ v ∈ p.2.values, v.value.isFinite) ↔
      ∀ m ∈ r.meters, m.cell.isInfinite = false := by
  constructor
  · intro hall m hm
    by_contra hinfinite
    rw [Bool.not_eq_false] at hinfinite
    obtain ⟨v, hv⟩ := List.exists_mem_of_ne_nil _ (Cell.values_ne_nil_of_isInfinite hinfinite)
    obtain ⟨metric, hmetric, hvalue⟩ :=
      Snapshot.mem_entries.mp ((mem_entries_exportAlong o clock).mpr ⟨m, hm, v, hv, rfl⟩)
    have hfinite := hall _ hmetric _ hvalue
    have hnot := (hbounded m hm).isFinite_of_mem_values hv
    rw [hinfinite] at hnot
    exact absurd (hfinite.symm.trans hnot) (by decide)
  · rintro hall ⟨name, metric⟩ hmetric w hw
    obtain ⟨m, hm, v, hv, heq⟩ :=
      (mem_entries_exportAlong o clock).mp (Snapshot.mem_entries.mpr ⟨metric, hmetric, hw⟩)
    obtain rfl : w = _ := congrArg Prod.snd heq
    show v.2.isFinite = true
    rw [(hbounded m hm).isFinite_of_mem_values hv, hall m hm]
    rfl

theorem read?_exportAlong {r : Registry} (hbounded : ∀ m ∈ r.meters, m.cell.Bounded)
    (o : r.Order) (clock : Id → Nat) : Snapshot.read? (r.exportAlong o clock).2.toJson.text =
      if ∀ m ∈ r.meters, m.cell.isInfinite = false then some (r.exportAlong o clock).2
      else none := by
  rw [Snapshot.read?_text]
  exact if_congr (allFinite_exportAlong_iff hbounded o clock) rfl rfl

end Registry

namespace Shared

theorem Run.bounded {config : Config} {usable : config.Valid} {deeds : List Deed} {s : Shared}
    (hrun : Run (new config usable) deeds s) : ∀ m ∈ s.registry.meters, m.cell.Bounded := by
  intro m hm
  obtain ⟨i, hi⟩ := List.mem_iff_getElem?.mp hm
  exact (hrun.follows.reached hi).bounded

/-- **A snapshot is fetched as it was taken, unless a gauge holds an infinity.**  Then a `null`
stands in the text where the number should be, and nothing is fetched.  The meters may be visited in
any order, and each of them at its own time. -/
theorem snapshot_read_back {config : Config} {usable : config.Valid} {deeds : List Deed}
    {s : Shared} (hrun : Run (new config usable) deeds s) (o : s.registry.Order)
    (clock : Id → Nat) :
    let snapshot := (s.registry.exportAlong o clock).2
    Json.read? snapshot.toJson.text = some snapshot.toJson.withNulls ∧
      Snapshot.read? snapshot.toJson.text =
        if ∀ m ∈ s.registry.meters, m.cell.isInfinite = false then some snapshot else none := by
  intro snapshot
  constructor
  · exact Json.read?_text_eq_withNulls _
  · exact Registry.read?_exportAlong hrun.bounded o clock

/-- Somebody gets a gauge and sets it. -/
theorem run_set (usable : Config.Valid {}) (x : Binary64) :
    ∃ deeds s, Run (new {} usable) deeds s ∧
      s.registry.meters = [⟨Id.make "up" [], .gauge x⟩] := by
  let id := Id.make "up" []
  have hmissed : Run (new {} usable) _ ⟨⟨{}, usable, []⟩, [], [(id, .gauge)], []⟩ :=
    .step .start (.miss .gauge rfl)
  have hentered : Run _ _ ⟨⟨{}, usable, [.fresh id .gauge]⟩, [⟨0, .gauge⟩], [], []⟩ :=
    .step hmissed (.enter (show _ = [] ++ (id, .gauge) :: [] from rfl))
  have hset : Run _ _ ⟨⟨{}, usable, [⟨id, .gauge x⟩]⟩, [⟨0, .gauge⟩], [], []⟩ :=
    .step hentered (Step.update (s := ⟨⟨{}, usable, [.fresh id .gauge]⟩, [⟨0, .gauge⟩], [], []⟩)
      (h := ⟨0, .gauge⟩) (u := .set x) List.mem_cons_self rfl rfl)
  exact ⟨_, _, hset, rfl⟩

/-- Three and a half is set, and fetched. -/
theorem level_read_back : ∃ (usable : Config.Valid {}) (deeds : List Deed) (s : Shared),
    Run (new {} usable) deeds s ∧
      s.registry.meters = [⟨Id.make "up" [], .gauge ⟨0x400c000000000000⟩⟩] ∧
      ∀ (o : s.registry.Order) (clock : Id → Nat), let snapshot := (s.registry.exportAlong o clock).2
        Snapshot.read? snapshot.toJson.text = some snapshot := by
  have usable : Config.Valid {} := by decide
  obtain ⟨deeds, s, hrun, hmeters⟩ := run_set usable ⟨0x400c000000000000⟩
  have hfinite : ∀ m ∈ s.registry.meters, m.cell.isInfinite = false := by
    intro m hm
    rw [hmeters, List.mem_singleton] at hm
    rw [hm]
    decide
  refine ⟨usable, deeds, s, hrun, hmeters, fun o clock => ?_⟩
  exact (snapshot_read_back hrun o clock).2.trans (if_pos hfinite)

/-- Infinity is set, and no snapshot is fetched, however it is taken. -/
theorem infinity_not_read_back : ∃ (usable : Config.Valid {}) (deeds : List Deed) (s : Shared),
    Run (new {} usable) deeds s ∧
      s.registry.meters = [⟨Id.make "up" [], .gauge .infinity⟩] ∧
      ∀ (o : s.registry.Order) (clock : Id → Nat), let snapshot := (s.registry.exportAlong o clock).2
        Snapshot.read? snapshot.toJson.text ≠ some snapshot := by
  have usable : Config.Valid {} := by decide
  obtain ⟨deeds, s, hrun, hmeters⟩ := run_set usable .infinity
  have hinfinite : ¬ ∀ m ∈ s.registry.meters, m.cell.isInfinite = false := by
    intro hall
    rw [hmeters] at hall
    exact absurd (hall _ List.mem_cons_self) (by decide)
  refine ⟨usable, deeds, s, hrun, hmeters, fun o clock => ?_⟩
  intro snapshot
  rw [Registry.read?_exportAlong hrun.bounded, if_neg hinfinite]
  exact nofun

end Shared

end DimensionalMetrics
