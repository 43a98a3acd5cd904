import DimensionalMetrics.Proofs.Registry.Orders
import DimensionalMetrics.Proofs.Snapshot.Grouping
import DimensionalMetrics.Publisher.Delivery

/-!
# Sweeps of every sort

A sweep for a list of measurements, one for a snapshot and one for the backend visit the meters one
by one, and nobody promises in which order.  Here it is any order, and each sort of sweep is the same
visit with its own way to collect what it finds.  All of them leave the same meters behind and tell
the same values, and another order only moves values about.
-/

namespace DimensionalMetrics

namespace Registry

/-! ### What is left of the registry -/

theorem exportAlong_eq (r : Registry) (o : r.Order) (clock : Id → Nat) : r.exportAlong o clock =
    ({ r with meters := r.meters.map Meter.reset },
      .ofMeters r.config.commonTags clock o.meters) := by
  rw [exportAlong, visit_eq _ o.nodup, measuredAt_order]
  rfl

theorem publishAlong_fst (r : Registry) (o : r.Order) (permission : Option Permission)
    (outcomes : List Outcome) : (r.publishAlong o permission outcomes).1 =
      if permission.getD .granted = .granted then r.sweep.1 else r := by
  unfold publishAlong beginPublish
  cases permission.getD .granted with
  | granted =>
    simp only [publishFreely, measureAll, sweepAlong_fst, if_true]
    split <;> rfl
  | refused => rfl
  | broken reason => rfl

/-! ### What the sorts of sweeps have in common -/

/-- All meters of a name are of one kind. -/
def OneKind (r : Registry) (name : String) (kind : Kind) : Prop :=
  ∀ m ∈ r.meters, m.id.name = name → m.kind = kind

/-- The sweeps in one order leave the same registry, and the snapshot shows the measurements: each
of them once, under its name, with the tags of its record but for the name. -/
structure AgreeAlong (r : Registry) (o : r.Order) (clock : Id → Nat) : Prop where
  reset : (r.sweepAlong o).1 = { r with meters := r.meters.map Meter.reset }
  exported : (r.exportAlong o clock).1 = (r.sweepAlong o).1
  published : ∀ permission outcomes, permission.getD .granted = .granted →
    (r.publishAlong o permission outcomes).1 = (r.sweepAlong o).1
  increasing : (r.exportAlong o clock).2.Increasing
  names : ∀ name, name ∈ (r.exportAlong o clock).2.map Prod.fst ↔
    ∃ x ∈ (r.sweepAlong o).2, x.id.name = name
  entries : (r.exportAlong o clock).2.entries.Perm ((r.sweepAlong o).2.map
    fun x => (x.id.name, x.tagged r.config.commonTags (clock x.id)))
  /-- Under a name the values stand as they were measured, and those of one meter side by side. -/
  values : ∀ name, (r.exportAlong o clock).2.valuesAt name =
    ((r.sweepAlong o).2.filter (·.id.name = name)).map
      fun x => x.tagged r.config.commonTags (clock x.id)
  adjacent : ∀ m ∈ r.meters, m.measurements.map (·.tagged r.config.commonTags (clock m.id)) <:+:
    (r.exportAlong o clock).2.valuesAt m.id.name
  tags : ∀ x ∈ (r.sweepAlong o).2, ∀ millis,
    StrictlyKeyed (x.tagged r.config.commonTags millis).tags.toList ∧
      (x.tagged r.config.commonTags millis).tags.insert nameKey x.id.name =
        (Record.ofMeasurement r.config.commonTags x).tags
  kind : ∀ name kind, r.OneKind name kind → name ∈ (r.exportAlong o clock).2.map Prod.fst →
    (r.exportAlong o clock).2.kindOf? name = some kind

theorem agreeAlong (r : Registry) (o : r.Order) (clock : Id → Nat) : r.AgreeAlong o clock := by
  have hsweep := r.sweepAlong_eq o
  have hexport := r.exportAlong_eq o clock
  constructor
  case reset => rw [hsweep]
  case exported => rw [hsweep, hexport]
  case published =>
    intro permission outcomes hgranted
    rw [publishAlong_fst, if_pos hgranted, sweepAlong_fst]
  case increasing =>
    rw [hexport]
    exact Snapshot.increasing_ofMeters _ _ _
  case names =>
    intro name
    rw [hsweep, hexport]
    exact Snapshot.name_mem_ofMeters_iff _ _ _ _
  case entries =>
    rw [hsweep, hexport]
    exact Snapshot.entries_ofMeters _ _ _
  case values =>
    intro name
    rw [hsweep, hexport]
    exact Snapshot.valuesAt_ofMeters _ _ _ _
  case adjacent =>
    intro m hm
    rw [hexport]
    have hmem : m ∈ o.meters := o.meters_perm.mem_iff.mpr hm
    exact Snapshot.infix_valuesAt_ofMeters _ _ hmem
  case tags =>
    intro x _ millis
    exact ⟨(x.statisticTags r.config.commonTags).keyed, x.insert_name_statisticTags _⟩
  case kind =>
    intro name kind hkind hname
    rw [hexport] at hname ⊢
    refine Snapshot.kindOf?_ofMeters_of_all _ _ ?_ hname
    intro m hm
    exact hkind m (o.meters_perm.mem_iff.mp hm)

/-- Two snapshots show the same but for the order of values; of a name with meters of several kinds
they may show different kinds. -/
structure Rearranged (r : Registry) (s s' : Snapshot) : Prop where
  names : s.map Prod.fst = s'.map Prod.fst
  values : ∀ name, (s.valuesAt name).Perm (s'.valuesAt name)
  kinds : ∀ name kind, r.OneKind name kind → s.kindOf? name = s'.kindOf? name

theorem rearranged (r : Registry) (o o' : r.Order) (clock : Id → Nat) :
    r.Rearranged (r.exportAlong o clock).2 (r.exportAlong o' clock).2 := by
  have hperm : (r.sweepAlong o).2.Perm (r.sweepAlong o').2 := by
    rw [sweepAlong_eq, sweepAlong_eq]
    exact (o.meters_perm.trans o'.meters_perm.symm).flatMap_right _
  have h := r.agreeAlong o clock
  have h' := r.agreeAlong o' clock
  have hmem : ∀ name, name ∈ (r.exportAlong o clock).2.map Prod.fst ↔
      name ∈ (r.exportAlong o' clock).2.map Prod.fst := by
    intro name
    rw [h.names, h'.names]
    constructor
    · rintro ⟨x, hx, hname⟩
      exact ⟨x, hperm.mem_iff.mp hx, hname⟩
    · rintro ⟨x, hx, hname⟩
      exact ⟨x, hperm.mem_iff.mpr hx, hname⟩
  constructor
  case names => exact Snapshot.names_eq_of_mem_iff h.increasing h'.increasing hmem
  case values =>
    intro name
    rw [h.values, h'.values]
    exact (hperm.filter _).map _
  case kinds =>
    intro name kind hkind
    by_cases hname : name ∈ (r.exportAlong o clock).2.map Prod.fst
    · rw [h.kind name kind hkind hname, h'.kind name kind hkind ((hmem name).mp hname)]
    · rw [Snapshot.kindOf?_eq_none hname, Snapshot.kindOf?_eq_none (mt (hmem name).mpr hname)]

/-- **All sweeps agree.**  In every order of the meters the three sorts of sweeps leave the same
registry and tell the same values, and the order decides only in which order values are told.  The
sweeps that do not leave the order open are among them. -/
theorem sweeps_agree (r : Registry) :
    (r.sweepAlong r.ownOrder = r.sweep ∧
      (∀ clock, r.exportAlong r.ownOrder clock = r.snapshot clock) ∧
      ∀ permission outcomes,
        r.publishAlong r.ownOrder permission outcomes = r.publish permission outcomes) ∧
    ∀ (o : r.Order) (clock : Id → Nat), r.AgreeAlong o clock ∧
      ∀ o' : r.Order, r.Rearranged (r.exportAlong o clock).2 (r.exportAlong o' clock).2 := by
  constructor
  · exact ⟨rfl, fun _ => rfl, fun _ _ => rfl⟩
  · intro o clock
    exact ⟨r.agreeAlong o clock, fun o' => r.rearranged o o' clock⟩

end Registry

end DimensionalMetrics
