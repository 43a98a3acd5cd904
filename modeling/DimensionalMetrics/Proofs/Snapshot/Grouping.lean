import DimensionalMetrics.Proofs.Tags.Lookup
import DimensionalMetrics.Snapshot
import Mathlib.Data.List.Induction

/-!
# Grouping by name

A snapshot is built by adding the meters one after the other, each under its name.  What a snapshot
shows of a name is a kind and a list of values, and so `kindOf?` and `valuesAt` say all about it.
Both are read off the list of meters here, and `entries_ofMeters` says that no value is lost, joined
to another or put under another name on the way.
-/

namespace DimensionalMetrics

/-- A measurement as a snapshot shows it. -/
def Measurement.tagged (common : Tags) (millis : Nat) (m : Measurement) : TaggedValue :=
  ⟨m.statisticTags common, m.value, millis⟩

/-- A snapshot lays tags over each other as a record does, and leaves out the name.  The reserved
keys differ, so it does not matter that the record sets the name before the statistic. -/
theorem Measurement.insert_name_statisticTags (common : Tags) (m : Measurement) :
    (m.statisticTags common).insert nameKey m.id.name = (Record.ofMeasurement common m).tags := by
  have hkeys : nameKey ≠ statisticKey := by decide
  apply Tags.ext_get?
  intro key
  simp only [Measurement.statisticTags, Record.ofMeasurement, Tags.get?_insert]
  by_cases hname : key = nameKey
  · have hstatistic : key ≠ statisticKey := hname ▸ hkeys
    rw [if_pos hname, if_pos hname, if_neg hstatistic]
  · rw [if_neg hname, if_neg hname]

theorem Meter.id_of_mem_measurements {m : Meter} {x : Measurement} (hx : x ∈ m.measurements) :
    x.id = m.id := by
  obtain ⟨v, -, rfl⟩ := List.mem_map.mp hx
  rfl

namespace Snapshot

def Increasing (s : Snapshot) : Prop := s.Pairwise fun a b => a.1 < b.1

def kindOf? (s : Snapshot) (name : String) : Option Kind := (s.lookup name).map MetricSnapshot.kind

def valuesAt (s : Snapshot) (name : String) : List TaggedValue :=
  ((s.lookup name).map MetricSnapshot.values).getD []

/-- All values, each with its name. -/
def entries (s : Snapshot) : List (String × TaggedValue) :=
  s.flatMap fun p => p.2.values.map (Prod.mk p.1)

theorem lookup_cons_of_ne {name k : String} (h : name ≠ k) (m : MetricSnapshot) (s : Snapshot) :
    List.lookup name ((k, m) :: s) = s.lookup name := by
  simp only [List.lookup_cons, beq_false_of_ne h]

theorem lookup_eq_none_of_lt {name : String} {s : Snapshot} (h : ∀ p ∈ s, name < p.1) :
    s.lookup name = none := by
  rw [List.lookup_eq_none_iff]
  intro p hp
  have hlt := h p hp
  simpa using String.ne_of_lt hlt

theorem isSome_kindOf?_iff (s : Snapshot) (name : String) :
    (s.kindOf? name).isSome ↔ name ∈ s.map Prod.fst := by
  rw [kindOf?, Option.isSome_map, ← Option.ne_none_iff_isSome, Ne, List.lookup_eq_none_iff,
    List.mem_map]
  constructor
  · intro h
    by_contra hall
    apply h
    intro p hp
    rw [bne_iff_ne]
    rintro rfl
    exact hall ⟨p, hp, rfl⟩
  · rintro ⟨p, hp, rfl⟩ hall
    exact bne_iff_ne.mp (hall p hp) rfl

theorem kindOf?_eq_none {s : Snapshot} {name : String} (h : name ∉ s.map Prod.fst) :
    s.kindOf? name = none := by
  rw [← isSome_kindOf?_iff] at h
  simpa using h

/-- Snapshots with the same names have them in the same order. -/
theorem names_eq_of_mem_iff {s s' : Snapshot} (hs : s.Increasing) (hs' : s'.Increasing)
    (h : ∀ name, name ∈ s.map Prod.fst ↔ name ∈ s'.map Prod.fst) :
    s.map Prod.fst = s'.map Prod.fst := by
  have hirrefl : Std.Irrefl fun a b : String => a < b := ⟨String.lt_irrefl⟩
  have hasymm : Std.Antisymm fun a b : String => a < b :=
    ⟨fun a b hab hba => absurd (String.lt_trans hab hba) (String.lt_irrefl a)⟩
  have hnames : (s.map Prod.fst).Pairwise (· < ·) := List.pairwise_map.mpr hs
  have hnames' : (s'.map Prod.fst).Pairwise (· < ·) := List.pairwise_map.mpr hs'
  exact hnames.eq_of_mem_iff hnames' fun name => h name

/-! ### Adding values under a name -/

/-- The name that gets the values has them after its old ones, and keeps its kind if it has one.
The others stay as they are. -/
theorem lookup_add {s : Snapshot} (hs : s.Increasing) (name : String) (kind : Kind)
    (values : List TaggedValue) (n : String) :
    (s.add name kind values).lookup n =
      if n = name then some ⟨(s.kindOf? name).getD kind, s.valuesAt name ++ values⟩
      else s.lookup n := by
  induction s with
  | nil =>
    rw [add]
    split
    · rename_i hn
      rw [hn, List.lookup_cons_self]
      rfl
    · rename_i hn
      rw [lookup_cons_of_ne hn]
  | cons p rest ih =>
    obtain ⟨k, m⟩ := p
    obtain ⟨hhead, htail⟩ := List.pairwise_cons.mp hs
    rcases key_trichotomy name k with hlt | rfl | hgt
    · -- The new name comes before all others, so it is not among them.
      have hnone : List.lookup name ((k, m) :: rest) = none := by
        apply lookup_eq_none_of_lt
        intro p hp
        rcases List.mem_cons.mp hp with rfl | hp
        · exact hlt
        · exact String.lt_trans hlt (hhead p hp)
      rw [add, if_pos hlt, kindOf?, valuesAt, hnone]
      split
      · rename_i hn
        rw [hn, List.lookup_cons_self]
        rfl
      · rename_i hn
        rw [lookup_cons_of_ne hn]
    · rw [add, if_neg (String.lt_irrefl name), if_neg (String.lt_irrefl name), kindOf?, valuesAt,
        List.lookup_cons_self]
      split
      · rename_i hn
        rw [hn, List.lookup_cons_self]
        rfl
      · rename_i hn
        rw [lookup_cons_of_ne hn, lookup_cons_of_ne hn]
    · have hne : name ≠ k := (String.ne_of_lt hgt).symm
      have hnot : ¬ name < k := fun h => String.lt_irrefl k (String.lt_trans hgt h)
      rw [add, if_neg hnot, if_pos hgt, kindOf?, valuesAt, lookup_cons_of_ne hne]
      by_cases hn : n = k
      · have hother : n ≠ name := fun h => hne (h ▸ hn)
        rw [hn, List.lookup_cons_self, if_neg (hn ▸ hother), List.lookup_cons_self]
      · rw [lookup_cons_of_ne hn, lookup_cons_of_ne hn, ih htail]
        rfl

theorem name_mem_add {s : Snapshot} {name : String} {kind : Kind} {values : List TaggedValue}
    {p : String × MetricSnapshot} (h : p ∈ s.add name kind values) :
    p.1 = name ∨ ∃ q ∈ s, q.1 = p.1 := by
  induction s with
  | nil =>
    rw [add, List.mem_singleton] at h
    exact .inl (by rw [h])
  | cons q rest ih =>
    obtain ⟨k, m⟩ := q
    simp only [add] at h
    split at h
    · rcases List.mem_cons.mp h with rfl | h
      · exact .inl rfl
      · exact .inr ⟨p, h, rfl⟩
    · split at h
      · rcases List.mem_cons.mp h with rfl | h
        · exact .inr ⟨_, List.mem_cons_self, rfl⟩
        · rcases ih h with h | ⟨q, hq, he⟩
          · exact .inl h
          · exact .inr ⟨q, List.mem_cons_of_mem _ hq, he⟩
      · rcases List.mem_cons.mp h with rfl | h
        · exact .inr ⟨(k, m), List.mem_cons_self, rfl⟩
        · exact .inr ⟨p, List.mem_cons_of_mem _ h, rfl⟩

theorem Increasing.add {s : Snapshot} (hs : s.Increasing) (name : String) (kind : Kind)
    (values : List TaggedValue) : (s.add name kind values).Increasing := by
  induction s with
  | nil => exact List.pairwise_singleton _ _
  | cons p rest ih =>
    obtain ⟨k, m⟩ := p
    obtain ⟨hhead, htail⟩ := List.pairwise_cons.mp hs
    simp only [Snapshot.add]
    split
    · rename_i hlt
      apply List.pairwise_cons.mpr
      refine ⟨?_, hs⟩
      intro q hq
      rcases List.mem_cons.mp hq with rfl | hq
      · exact hlt
      · exact String.lt_trans hlt (hhead q hq)
    · split
      · rename_i hlt
        apply List.pairwise_cons.mpr
        refine ⟨?_, ih htail⟩
        intro q hq
        rcases name_mem_add hq with he | ⟨q', hq', he⟩
        · show k < q.1
          rw [he]
          exact hlt
        · show k < q.1
          rw [← he]
          exact hhead q' hq'
      · apply List.pairwise_cons.mpr
        exact ⟨hhead, htail⟩

theorem entries_add (s : Snapshot) (name : String) (kind : Kind) (values : List TaggedValue) :
    (s.add name kind values).entries.Perm (s.entries ++ values.map (Prod.mk name)) := by
  induction s with
  | nil => simp [add, entries]
  | cons p rest ih =>
    obtain ⟨k, m⟩ := p
    simp only [add]
    split
    · exact List.perm_append_comm
    · split
      · simp only [entries, List.flatMap_cons, List.append_assoc] at ih ⊢
        exact ih.append_left _
      · rename_i h₁ h₂
        obtain rfl : name = k := string_eq_of_not_lt h₁ h₂
        simp only [entries, List.flatMap_cons, List.map_append, List.append_assoc]
        exact List.perm_append_comm.append_left _

/-! ### Adding meters -/

section Meters

variable (common : Tags) (clock : Id → Nat)

/-- What the values of a meter look like, at the time at which it is visited. -/
def tagging (x : Measurement) : TaggedValue := x.tagged common (clock x.id)

/-- The snapshot of meters that are visited in this order. -/
def ofMeters (ms : List Meter) : Snapshot :=
  ms.foldl (fun s m => s.addMeter common (clock m.id) m) []

theorem ofMeters_append_singleton (ms : List Meter) (m : Meter) :
    ofMeters common clock (ms ++ [m]) =
      (ofMeters common clock ms).addMeter common (clock m.id) m := by
  rw [ofMeters, List.foldl_append]
  rfl

theorem map_tagged_measurements (m : Meter) :
    m.measurements.map (·.tagged common (clock m.id)) =
      m.measurements.map (tagging common clock) := by
  apply List.map_congr_left
  intro x hx
  rw [tagging, Meter.id_of_mem_measurements hx]

theorem addMeter_of_nil {m : Meter} (h : m.measurements = []) (s : Snapshot) :
    s.addMeter common (clock m.id) m = s := by
  simp only [addMeter, h, List.map_nil, if_true]

theorem addMeter_of_ne_nil {m : Meter} (h : m.measurements ≠ []) (s : Snapshot) :
    s.addMeter common (clock m.id) m =
      s.add m.id.name m.kind (m.measurements.map (tagging common clock)) := by
  have hne : m.measurements.map (tagging common clock) ≠ [] := by
    simpa using h
  rw [← map_tagged_measurements] at hne ⊢
  exact if_neg hne

theorem increasing_ofMeters (ms : List Meter) : (ofMeters common clock ms).Increasing := by
  induction ms using List.reverseRecOn with
  | nil => exact .nil
  | append_singleton ms m ih =>
    rw [ofMeters_append_singleton]
    by_cases hm : m.measurements = []
    · rw [addMeter_of_nil common clock hm]
      exact ih
    · rw [addMeter_of_ne_nil common clock hm]
      exact ih.add _ _ _

/-- The first meter with something to report under a name decides about the kind. -/
theorem kindOf?_ofMeters (ms : List Meter) (name : String) :
    (ofMeters common clock ms).kindOf? name =
      (ms.find? fun m => m.id.name = name ∧ m.measurements ≠ []).map Meter.kind := by
  induction ms using List.reverseRecOn with
  | nil => rfl
  | append_singleton ms m ih =>
    rw [ofMeters_append_singleton, List.find?_append, Option.map_or, ← ih, List.find?_singleton]
    by_cases hm : m.measurements = []
    · rw [addMeter_of_nil common clock hm, if_neg (by simp [hm])]
      exact (Option.or_none).symm
    · rw [addMeter_of_ne_nil common clock hm, kindOf?,
        lookup_add (increasing_ofMeters common clock ms)]
      by_cases hname : name = m.id.name
      · rw [if_pos hname, if_pos (by simp [hm, hname]), hname]
        cases kindOf? (ofMeters common clock ms) m.id.name <;> rfl
      · rw [if_neg hname, if_neg (by simp [Ne.symm hname])]
        exact (Option.or_none).symm

/-- The values of a name are those of its meters, in the order in which the meters are visited. -/
theorem valuesAt_ofMeters (ms : List Meter) (name : String) :
    (ofMeters common clock ms).valuesAt name =
      ((ms.flatMap Meter.measurements).filter (·.id.name = name)).map (tagging common clock) := by
  induction ms using List.reverseRecOn with
  | nil => rfl
  | append_singleton ms m ih =>
    have hsplit : (ms ++ [m]).flatMap Meter.measurements =
        ms.flatMap Meter.measurements ++ m.measurements := by
      rw [List.flatMap_append, List.flatMap_singleton]
    rw [ofMeters_append_singleton, hsplit, List.filter_append, List.map_append, ← ih]
    by_cases hm : m.measurements = []
    · rw [addMeter_of_nil common clock hm, hm]
      exact (List.append_nil _).symm
    · rw [addMeter_of_ne_nil common clock hm, valuesAt,
        lookup_add (increasing_ofMeters common clock ms)]
      by_cases hname : name = m.id.name
      · have hall : m.measurements.filter (·.id.name = name) = m.measurements := by
          rw [List.filter_eq_self]
          intro x hx
          simp [Meter.id_of_mem_measurements hx, hname]
        rw [if_pos hname, hall, hname]
        rfl
      · have hnone : m.measurements.filter (·.id.name = name) = [] := by
          rw [List.filter_eq_nil_iff]
          intro x hx
          simp [Meter.id_of_mem_measurements hx, Ne.symm hname]
        rw [if_neg hname, hnone]
        exact (List.append_nil _).symm

theorem entries_ofMeters (ms : List Meter) :
    (ofMeters common clock ms).entries.Perm
      ((ms.flatMap Meter.measurements).map fun x => (x.id.name, tagging common clock x)) := by
  induction ms using List.reverseRecOn with
  | nil => exact .refl _
  | append_singleton ms m ih =>
    have hentries : m.measurements.map (fun x => (x.id.name, tagging common clock x)) =
        (m.measurements.map (tagging common clock)).map (Prod.mk m.id.name) := by
      rw [List.map_map]
      apply List.map_congr_left
      intro x hx
      rw [Meter.id_of_mem_measurements hx]
      rfl
    rw [ofMeters_append_singleton, List.flatMap_append, List.flatMap_singleton, List.map_append,
      hentries]
    by_cases hm : m.measurements = []
    · rw [addMeter_of_nil common clock hm, hm]
      simpa using ih
    · rw [addMeter_of_ne_nil common clock hm]
      exact (entries_add _ _ _ _).trans (ih.append_right _)

/-- A snapshot has the names of which something is reported, and no others. -/
theorem name_mem_ofMeters_iff (ms : List Meter) (name : String) :
    name ∈ (ofMeters common clock ms).map Prod.fst ↔
      ∃ x ∈ ms.flatMap Meter.measurements, x.id.name = name := by
  rw [← isSome_kindOf?_iff, kindOf?_ofMeters, Option.isSome_map, List.find?_isSome]
  constructor
  · rintro ⟨m, hm, hreports⟩
    simp only [decide_eq_true_eq] at hreports
    obtain ⟨hname, hne⟩ := hreports
    obtain ⟨x, hx⟩ := List.exists_mem_of_ne_nil _ hne
    refine ⟨x, List.mem_flatMap.mpr ⟨m, hm, hx⟩, ?_⟩
    rw [Meter.id_of_mem_measurements hx]
    exact hname
  · rintro ⟨x, hx, hname⟩
    obtain ⟨m, hm, hx⟩ := List.mem_flatMap.mp hx
    refine ⟨m, hm, ?_⟩
    rw [Meter.id_of_mem_measurements hx] at hname
    simpa using ⟨hname, List.ne_nil_of_mem hx⟩

/-- The values of one meter stand side by side, in the order in which it reports them. -/
theorem infix_valuesAt_ofMeters {ms : List Meter} {m : Meter} (hm : m ∈ ms) :
    m.measurements.map (·.tagged common (clock m.id)) <:+:
      (ofMeters common clock ms).valuesAt m.id.name := by
  obtain ⟨before, after, rfl⟩ := List.append_of_mem hm
  have hmine : m.measurements.filter (·.id.name = m.id.name) = m.measurements := by
    rw [List.filter_eq_self]
    intro x hx
    simp [Meter.id_of_mem_measurements hx]
  rw [valuesAt_ofMeters, List.flatMap_append, List.flatMap_cons, List.filter_append,
    List.filter_append, hmine, List.map_append, List.map_append,
    ← map_tagged_measurements, ← List.append_assoc]
  exact List.infix_append _ _ _

theorem kindOf?_ofMeters_of_all {ms : List Meter} {name : String} {kind : Kind}
    (hkind : ∀ m ∈ ms, m.id.name = name → m.kind = kind)
    (hname : name ∈ (ofMeters common clock ms).map Prod.fst) :
    (ofMeters common clock ms).kindOf? name = some kind := by
  rw [← isSome_kindOf?_iff, kindOf?_ofMeters, Option.isSome_map] at hname
  obtain ⟨m, hm⟩ := Option.isSome_iff_exists.mp hname
  have hreports := List.find?_some hm
  simp only [decide_eq_true_eq] at hreports
  rw [kindOf?_ofMeters, hm, Option.map_some, hkind m (List.mem_of_find?_eq_some hm) hreports.1]

end Meters

end Snapshot

end DimensionalMetrics
