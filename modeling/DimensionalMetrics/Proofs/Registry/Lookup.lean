import DimensionalMetrics.Proofs.Registry.Orders

/-!
# Looking meters up

What `find?`, `enter` and `modify` do to the list of meters.  The invariant behind all of it is that
no identity is registered twice: then the position of a meter and its identity say the same, and an
update that goes through a hold reaches the meter that the hold was given out for.
-/

namespace DimensionalMetrics.Registry

/-- No two meters have one identity. -/
def Distinct (r : Registry) : Prop := (r.meters.map Meter.id).Nodup

/-! ### Positions and identities -/

theorem Distinct.eq_of_id {r : Registry} (hd : r.Distinct) {i j : Nat} {a b : Meter}
    (ha : r.meters[i]? = some a) (hb : r.meters[j]? = some b) (hid : a.id = b.id) : i = j := by
  have hi : (r.meters.map Meter.id)[i]? = some b.id := by rw [List.getElem?_map, ha, ← hid]; rfl
  have hj : (r.meters.map Meter.id)[j]? = some b.id := by rw [List.getElem?_map, hb]; rfl
  have hlt : i < (r.meters.map Meter.id).length := by
    obtain ⟨h, -⟩ := List.getElem?_eq_some_iff.mp hi
    exact h
  exact (List.getElem?_inj hlt hd).mp (hi.trans hj.symm)

theorem find?_eq_none_iff {r : Registry} {id : Id} :
    r.find? id = none ↔ ∀ m ∈ r.meters, m.id ≠ id := by
  rcases hf : r.meters.findIdx? (·.id == id) with _ | i
  · have hnone := List.findIdx?_eq_none_iff.mp hf
    simp only [find?, hf, Option.bind_eq_bind, Option.bind_none, true_iff]
    intro m hm he
    simpa [he] using hnone m hm
  · obtain ⟨hi, hp, -⟩ := List.findIdx?_eq_some_iff_getElem.mp hf
    have hget : r.meters[i]? = some r.meters[i] := List.getElem?_eq_getElem hi
    simp only [find?, hf, hget, Option.bind_eq_bind, Option.bind_some, Option.pure_def,
      reduceCtorEq, false_iff]
    intro hall
    exact hall r.meters[i] (List.getElem_mem hi) (beq_iff_eq.mp hp)

/-- A look-up that succeeds finds the meter of the identity. -/
theorem find?_spec {r : Registry} {id : Id} {h : Handle} (hf : r.find? id = some h) :
    ∃ m, r.meters[h.position]? = some m ∧ m.id = id ∧ m.kind = h.kind := by
  unfold find? at hf
  simp only [Option.bind_eq_bind, Option.bind_eq_some_iff, Option.pure_def,
    Option.some.injEq] at hf
  obtain ⟨i, hi, m, hm, rfl⟩ := hf
  obtain ⟨hlt, hp, -⟩ := List.findIdx?_eq_some_iff_getElem.mp hi
  refine ⟨m, hm, ?_, rfl⟩
  rw [List.getElem?_eq_getElem hlt, Option.some.injEq] at hm
  rw [← hm]
  exact beq_iff_eq.mp hp

/-- An identity finds the meter that reports it, and no other. -/
theorem Distinct.find?_eq_some_iff {r : Registry} (hd : r.Distinct) {id : Id} {h : Handle} :
    r.find? id = some h ↔
      ∃ m, r.meters[h.position]? = some m ∧ m.id = id ∧ m.kind = h.kind := by
  constructor
  · exact find?_spec
  · rintro ⟨m, hm, hid, hkind⟩
    rcases hf : r.find? id with _ | g
    · exact absurd hid (find?_eq_none_iff.mp hf m (List.mem_of_getElem? hm))
    · obtain ⟨m', hm', hid', hkind'⟩ := find?_spec hf
      have hposition : g.position = h.position := hd.eq_of_id hm' hm (hid'.trans hid.symm)
      rw [hposition, hm, Option.some.injEq] at hm'
      obtain ⟨i, k⟩ := g
      obtain ⟨j, l⟩ := h
      subst hm'
      cases hposition
      cases hkind
      cases hkind'
      rfl

/-! ### Entering a meter -/

/-- To enter a meter either finds the one that is there and changes nothing, or adds a new one at
the end. -/
theorem enter_cases (r : Registry) (id : Id) (kind : Kind) :
    (∃ h, r.find? id = some h ∧ r.enter id kind = (r, h)) ∨
    (r.find? id = none ∧ r.enter id kind =
      ({ r with meters := r.meters ++ [.fresh id kind] }, ⟨r.meters.length, kind⟩)) := by
  rcases hf : r.find? id with _ | h
  · exact .inr ⟨rfl, by simp only [enter, hf]⟩
  · exact .inl ⟨h, rfl, enter_of_find? kind hf⟩

/-- To get a meter either finds the one that is there, which may be of another kind, or adds a new
one. -/
theorem register_cases (r : Registry) (id : Id) (kind : Kind) :
    (∃ h, r.find? id = some h ∧ r.register id kind = (r, h.expect id kind)) ∨
    (r.find? id = none ∧ r.register id kind =
      ({ r with meters := r.meters ++ [.fresh id kind] }, .ok ⟨r.meters.length, kind⟩)) := by
  have hregister : r.register id kind =
      ((r.enter id kind).1, (r.enter id kind).2.expect id kind) := by
    rw [register, register_eq_enter]
  rcases enter_cases r id kind with ⟨h, hf, he⟩ | ⟨hnone, he⟩
  · refine .inl ⟨h, hf, ?_⟩
    rw [hregister, he]
  · refine .inr ⟨hnone, ?_⟩
    rw [hregister, he, Handle.expect, if_pos rfl]

/-- Whoever enters a meter holds the meter of that identity. -/
theorem enter_spec (r : Registry) (id : Id) (kind : Kind) :
    ∃ m, (r.enter id kind).1.meters[(r.enter id kind).2.position]? = some m ∧
      m.id = id ∧ m.kind = (r.enter id kind).2.kind := by
  rcases enter_cases r id kind with ⟨h, hf, he⟩ | ⟨-, he⟩
  · rw [he]
    exact find?_spec hf
  · rw [he]
    exact ⟨.fresh id kind, by simp, rfl, Cell.kind_fresh kind⟩

theorem Distinct.enter {r : Registry} (hd : r.Distinct) (id : Id) (kind : Kind) :
    (r.enter id kind).1.Distinct := by
  rcases enter_cases r id kind with ⟨h, -, he⟩ | ⟨hnone, he⟩
  · rw [he]
    exact hd
  · have hnew : id ∉ r.meters.map Meter.id := by
      intro hmem
      obtain ⟨m, hm, hid⟩ := List.mem_map.mp hmem
      exact find?_eq_none_iff.mp hnone m hm hid
    rw [he]
    simp only [Distinct, List.map_append, List.map_cons, List.map_nil]
    exact List.nodup_append.mpr ⟨hd, List.nodup_singleton _, by
      intro a ha b hb
      rw [List.mem_singleton.mp hb]
      rintro rfl
      exact hnew ha⟩

/-! ### Changing a meter -/

/-- A change to the meter at a position is a change to that meter alone. -/
theorem getElem?_modify {r : Registry} {i j : Nat} {m : Meter} (f : Meter → Meter)
    (hm : (r.modify i f).meters[j]? = some m) :
    ∃ a, r.meters[j]? = some a ∧ m = if i = j then f a else a := by
  simp only [modify, List.getElem?_modify] at hm
  obtain ⟨a, ha, rfl⟩ := Option.map_eq_some_iff.mp hm
  exact ⟨a, ha, rfl⟩

/-- What a change to a meter leaves alone stays as it was along the whole list. -/
theorem map_modify {β : Type} {g : Meter → β} (r : Registry) (i : Nat) {f : Meter → Meter}
    (hf : ∀ m, g (f m) = g m) : (r.modify i f).meters.map g = r.meters.map g := by
  apply List.ext_getElem?
  intro j
  simp only [modify, List.getElem?_map, List.getElem?_modify]
  rcases r.meters[j]? with _ | a
  · rfl
  · simp only [Option.map_eq_map, Option.map_some]
    split
    · rw [hf]
    · rfl

theorem map_id_modify (r : Registry) (i : Nat) {f : Meter → Meter} (hf : ∀ m, (f m).id = m.id) :
    (r.modify i f).meters.map Meter.id = r.meters.map Meter.id :=
  map_modify r i hf

theorem Distinct.modify {r : Registry} (hd : r.Distinct) (i : Nat) {f : Meter → Meter}
    (hf : ∀ m, (f m).id = m.id) : (r.modify i f).Distinct := by
  unfold Distinct
  rw [map_id_modify r i hf]
  exact hd

theorem Distinct.sweep {r : Registry} (hd : r.Distinct) : r.sweep.1.Distinct := by
  rw [sweep_eq, Distinct, List.map_map]
  exact hd

/-- To measure the meter at a position is to report it as it was and to reset it. -/
theorem measureAt_of_getElem? {r : Registry} {i : Nat} {m : Meter}
    (hm : r.meters[i]? = some m) : r.measureAt i = (r.modify i Meter.reset, m.measurements) := by
  simp only [measureAt, hm, Option.map_some, Option.getD_some]

/-! ### Meters stay where they are -/

/-- Every meter is still at its position, with its identity and its kind. -/
def Keeps (r r' : Registry) : Prop :=
  ∀ {i : Nat} {m : Meter}, r.meters[i]? = some m →
    ∃ m', r'.meters[i]? = some m' ∧ m'.id = m.id ∧ m'.kind = m.kind

theorem Keeps.refl (r : Registry) : r.Keeps r := fun hm => ⟨_, hm, rfl, rfl⟩

theorem Keeps.trans {a b c : Registry} (hab : a.Keeps b) (hbc : b.Keeps c) : a.Keeps c := by
  intro i m hm
  obtain ⟨m₁, hm₁, hid₁, hkind₁⟩ := hab hm
  obtain ⟨m₂, hm₂, hid₂, hkind₂⟩ := hbc hm₁
  exact ⟨m₂, hm₂, hid₂.trans hid₁, hkind₂.trans hkind₁⟩

theorem keeps_append (r : Registry) (m : Meter) :
    r.Keeps { r with meters := r.meters ++ [m] } := by
  intro i a ha
  obtain ⟨hlt, -⟩ := List.getElem?_eq_some_iff.mp ha
  refine ⟨a, ?_, rfl, rfl⟩
  rw [List.getElem?_append_left hlt]
  exact ha

theorem keeps_modify (r : Registry) (i : Nat) {f : Meter → Meter} (hid : ∀ m, (f m).id = m.id)
    (hkind : ∀ m, (f m).kind = m.kind) : r.Keeps (r.modify i f) := by
  intro j a ha
  refine ⟨if i = j then f a else a, ?_, ?_, ?_⟩
  · simp [Registry.modify, List.getElem?_modify, ha]
  · split
    · exact hid a
    · rfl
  · split
    · exact hkind a
    · rfl

theorem keeps_sweep (r : Registry) : r.Keeps r.sweep.1 := by
  intro i a ha
  exact ⟨a.reset, by simp [sweep_eq, ha], rfl, Cell.kind_reset a.cell⟩

end DimensionalMetrics.Registry
