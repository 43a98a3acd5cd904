import DimensionalMetrics.Registry
import Mathlib.Data.List.Nodup

/-!
# Orders of the meters

Nobody who sweeps a registry can tell in which order the meters are visited; all that is promised is
that every meter is visited once.  An `Order` is that promise, and what is said of sweeps is said of
all orders.  Whatever the order, the meters are found as they were at first, and all are reset in the
end.
-/

namespace DimensionalMetrics.Registry

theorem filterMap_getElem?_range {α : Type} (l : List α) :
    (List.range l.length).filterMap (l[·]?) = l := by
  induction l with
  | nil => rfl
  | cons a l ih =>
    have hhead : (a :: l)[0]? = some a := rfl
    rw [List.length_cons, List.range_succ_eq_map, List.filterMap_cons_some hhead,
      List.filterMap_map]
    congr 1

namespace Order

variable {r : Registry} (o : r.Order)

/-- Every meter is visited once. -/
theorem meters_perm : o.meters.Perm r.meters := by
  have hall := o.all.filterMap (r.meters[·]?)
  rw [filterMap_getElem?_range] at hall
  exact hall

theorem nodup : o.positions.Nodup := o.all.nodup_iff.mpr List.nodup_range

theorem mem_positions_iff {i : Nat} : i ∈ o.positions ↔ i < r.meters.length :=
  o.all.mem_iff.trans List.mem_range

end Order

/-! ### Measuring in an order -/

/-- What is left of a registry after the meters at some positions were measured in turn. -/
def measuredAt (positions : List Nat) (r : Registry) : Registry :=
  positions.foldl (fun r i => (r.measureAt i).1) r

/-- To measure a meter leaves the others as they are. -/
theorem getElem?_measureAt_of_ne (r : Registry) {i j : Nat} (h : i ≠ j) :
    (r.measureAt i).1.meters[j]? = r.meters[j]? := by
  simp [measureAt, modify, h]

theorem filterMap_measureAt (r : Registry) {i : Nat} {positions : List Nat}
    (hi : i ∉ positions) : positions.filterMap ((r.measureAt i).1.meters[·]?) =
      positions.filterMap (r.meters[·]?) := by
  apply List.filterMap_congr
  intro j hj
  apply getElem?_measureAt_of_ne
  rintro rfl
  exact hi hj

theorem getElem?_measuredAt {positions : List Nat} (hnodup : positions.Nodup) (r : Registry)
    (j : Nat) : (measuredAt positions r).meters[j]? =
      (r.meters[j]?).map fun m => if j ∈ positions then m.reset else m := by
  induction positions generalizing r with
  | nil => simp [measuredAt]
  | cons i rest ih =>
    obtain ⟨hi, hrest⟩ := List.nodup_cons.mp hnodup
    have hstep : measuredAt (i :: rest) r = measuredAt rest (r.measureAt i).1 := rfl
    rw [hstep, ih hrest]
    simp only [measureAt, modify, List.getElem?_modify, Option.map_eq_map, Option.map_map]
    rcases r.meters[j]? with _ | m
    · rfl
    · by_cases hij : i = j
      · subst hij
        simp [hi]
      · have hji : ¬ j = i := fun h => hij h.symm
        simp [hij, hji]

theorem config_measuredAt (positions : List Nat) (r : Registry) :
    (measuredAt positions r).config = r.config := by
  induction positions generalizing r with
  | nil => rfl
  | cons i rest ih => exact ih _

/-- No order leaves a meter out. -/
theorem measuredAt_order {r : Registry} (o : r.Order) :
    measuredAt o.positions r = { r with meters := r.meters.map Meter.reset } := by
  have hmeters : (measuredAt o.positions r).meters = r.meters.map Meter.reset := by
    apply List.ext_getElem?
    intro j
    rw [getElem?_measuredAt o.nodup, List.getElem?_map]
    cases hj : r.meters[j]? with
    | none => rfl
    | some m =>
      obtain ⟨hlt, -⟩ := List.getElem?_eq_some_iff.mp hj
      simp only [Option.map_some, if_pos (o.mem_positions_iff.mpr hlt)]
  have hconfig := config_measuredAt o.positions r
  rcases hr : measuredAt o.positions r with ⟨config, usable, meters⟩
  rw [hr] at hmeters hconfig
  subst hmeters hconfig
  rfl

/-! ### Visits -/

/-- As no meter is visited twice, each of them is found as it was when the visits began. -/
theorem visit_eq {σ : Type} (f : σ → Meter → σ) {positions : List Nat} (hnodup : positions.Nodup)
    (r : Registry) (s : σ) : visit f positions (r, s) =
      (measuredAt positions r, (positions.filterMap (r.meters[·]?)).foldl f s) := by
  induction positions generalizing r s with
  | nil => rfl
  | cons i rest ih =>
    obtain ⟨hi, hrest⟩ := List.nodup_cons.mp hnodup
    have hmeasured : measuredAt (i :: rest) r = measuredAt rest (r.measureAt i).1 := rfl
    rw [visit, ih hrest, filterMap_measureAt r hi, hmeasured, List.filterMap_cons]
    cases r.meters[i]? with
    | none => rfl
    | some m => rfl

/-- Whatever the order, a sweep resets all meters, and tells what each of them held before. -/
theorem sweepAlong_eq (r : Registry) (o : r.Order) : r.sweepAlong o =
    ({ r with meters := r.meters.map Meter.reset }, o.meters.flatMap Meter.measurements) := by
  rw [sweepAlong, visit_eq _ o.nodup, measuredAt_order, List.flatMap_eq_foldl]
  rfl

theorem sweep_eq (r : Registry) : r.sweep =
    ({ r with meters := r.meters.map Meter.reset }, r.visited.flatMap Meter.measurements) :=
  r.sweepAlong_eq r.ownOrder

theorem config_sweep (r : Registry) : r.sweep.1.config = r.config := by rw [sweep_eq]

theorem sweepAlong_fst (r : Registry) (o : r.Order) : (r.sweepAlong o).1 = r.sweep.1 := by
  rw [sweepAlong_eq, sweep_eq]

end DimensionalMetrics.Registry
