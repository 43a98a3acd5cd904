import DimensionalMetrics.Proofs.Tags.Lookup
import DimensionalMetrics.Proofs.Text.Utf8
import DimensionalMetrics.Wire.Record

/-!
# Which measurements are one series

The backend knows a series by its tags.  These come in four layers: the common tags, those of the
meter over them, and over both the name of the meter and the statistic.  So what two measurements are
told apart by is what can still be seen through the layers: name, statistic, and for every other key
the value that is uppermost.  A meter that gives the value of a common tag anew, or a value to one
of the two reserved keys, is in one series with a meter that does not.
-/

namespace DimensionalMetrics

namespace Tags

def keys (ts : Tags) : List String := ts.toList.map Prod.fst

theorem mem_keys_iff {ts : Tags} {key : String} : key ∈ ts.keys ↔ ts.get? key ≠ none := by
  rw [Option.ne_none_iff_exists', keys, List.mem_map]
  constructor
  · rintro ⟨⟨k, v⟩, ht, rfl⟩
    exact ⟨v, get?_eq_some_iff.mpr ht⟩
  · rintro ⟨value, hvalue⟩
    exact ⟨(key, value), get?_eq_some_iff.mp hvalue, rfl⟩

end Tags

namespace Id

/-- The value that the series of a meter have for a key that is not reserved: that of the meter, or
else the common one. -/
def effective? (common : Tags) (id : Id) (key : String) : Option String :=
  (id.tag? key).or (common.get? key)

/-- The meter has none of the reserved keys and none of the common ones. -/
def KeepsClear (common : Tags) (id : Id) : Prop :=
  ∀ key ∈ id.tags.keys, key ≠ nameKey ∧ key ≠ statisticKey ∧ key ∉ common.keys

variable {common : Tags} {id : Id} {key : String}

theorem KeepsClear.tag?_eq_none (h : id.KeepsClear common)
    (hkey : key = nameKey ∨ key = statisticKey ∨ key ∈ common.keys) : id.tag? key = none := by
  by_contra hsome
  obtain ⟨hname, hstatistic, hcommon⟩ := h key (Tags.mem_keys_iff.mpr hsome)
  rcases hkey with hkey | hkey | hkey
  · exact hname hkey
  · exact hstatistic hkey
  · exact hcommon hkey

theorem effective?_of_notMem (h : key ∉ common.keys) : id.effective? common key = id.tag? key := by
  rw [Tags.mem_keys_iff, not_not] at h
  rw [effective?, h, Option.or_none]

/-- What keeps clear of the common tags can be told from what is seen over them. -/
theorem eq_of_effective?_eq {id' : Id} (h : id.KeepsClear common) (h' : id'.KeepsClear common)
    (hname : id.name = id'.name)
    (heffective : ∀ key, key ≠ nameKey → key ≠ statisticKey →
      id.effective? common key = id'.effective? common key) : id = id' := by
  refine Id.ext_tag? hname fun key => ?_
  by_cases htaken : key = nameKey ∨ key = statisticKey ∨ key ∈ common.keys
  · rw [h.tag?_eq_none htaken, h'.tag?_eq_none htaken]
  · simp only [not_or] at htaken
    have hkey := heffective key htaken.1 htaken.2.1
    rwa [effective?_of_notMem htaken.2.2, effective?_of_notMem htaken.2.2] at hkey

end Id

theorem Statistic.label_injective : Function.Injective label := by
  intro s s' h
  cases s <;> cases s' <;> simp [label] at h ⊢

theorem nameKey_ne_statisticKey : nameKey ≠ statisticKey := by decide

namespace Record

variable (common : Tags) (m : Measurement)

theorem get?_tags_ofMeasurement (key : String) : (ofMeasurement common m).tags.get? key =
    if key = statisticKey then some m.statistic.label
    else if key = nameKey then some m.id.name
    else m.id.effective? common key := by
  rw [ofMeasurement, Tags.get?_insert, Tags.get?_insert, Tags.get?_overlay]
  rfl

/-- The tags of a record, and the layers that they are seen through. -/
structure Layered (tags : Tags) : Prop where
  increasing : tags.toList.Pairwise fun t u => utf8 t.1 < utf8 u.1
  keys : ∀ key, key ∈ tags.keys ↔
    key ∈ common.keys ∨ key ∈ m.id.tags.keys ∨ key = nameKey ∨ key = statisticKey
  values : ∀ key ∈ tags.keys, tags.get? key =
    if key = statisticKey then some m.statistic.label
    else if key = nameKey then some m.id.name
    else if key ∈ m.id.tags.keys then m.id.tag? key
    else common.get? key

theorem layered_ofMeasurement : Layered common m (ofMeasurement common m).tags where
  increasing := (ofMeasurement common m).tags.keyed.imp utf8_lt_utf8_iff.mpr
  keys := by
    intro key
    rw [Tags.mem_keys_iff, Tags.mem_keys_iff, Tags.mem_keys_iff, get?_tags_ofMeasurement]
    by_cases hstatistic : key = statisticKey
    · simp [hstatistic]
    by_cases hname : key = nameKey
    · simp [hname, nameKey_ne_statisticKey]
    rw [if_neg hstatistic, if_neg hname, Id.effective?, Ne, Option.or_eq_none_iff, not_and_or]
    simp only [hstatistic, hname, or_false]
    exact or_comm
  values := by
    intro key _
    rw [get?_tags_ofMeasurement]
    split
    · rfl
    split
    · rfl
    split
    · rename_i hown
      obtain ⟨value, hvalue⟩ := Option.ne_none_iff_exists'.mp (Tags.mem_keys_iff.mp hown)
      have htag : m.id.tag? key = some value := hvalue
      rw [Id.effective?, htag, Option.some_or]
    · rename_i hother
      have htag : m.id.tag? key = none := not_not.mp (mt Tags.mem_keys_iff.mpr hother)
      rw [Id.effective?, htag, Option.none_or]

variable {common m} {m' : Measurement}

/-- **Measurements are one series** if nothing can be seen through the layers that differs. -/
theorem tags_eq_iff :
    (ofMeasurement common m).tags = (ofMeasurement common m').tags ↔
      m.id.name = m'.id.name ∧ m.statistic = m'.statistic ∧
        ∀ key, key ≠ nameKey → key ≠ statisticKey →
          m.id.effective? common key = m'.id.effective? common key := by
  constructor
  · intro h
    have hget : ∀ key, (ofMeasurement common m).tags.get? key =
        (ofMeasurement common m').tags.get? key := fun key => congrArg (·.get? key) h
    simp only [get?_tags_ofMeasurement] at hget
    refine ⟨?_, ?_, ?_⟩
    · simpa [nameKey_ne_statisticKey] using hget nameKey
    · have hlabel := hget statisticKey
      rw [if_pos rfl, if_pos rfl] at hlabel
      exact Statistic.label_injective (Option.some.inj hlabel)
    · intro key hname hstatistic
      simpa only [if_neg hstatistic, if_neg hname] using hget key
  · rintro ⟨hname, hstatistic, heffective⟩
    refine Tags.ext_get? fun key => ?_
    rw [get?_tags_ofMeasurement, get?_tags_ofMeasurement, hname, hstatistic]
    split
    · rfl
    split
    · rfl
    · rename_i hother hother'
      exact heffective key hother' hother

end Record

/-- **A series is known by its tags.**  Under any common tags the tags of a record are in the order of
their keys, and have the keys of all layers with the value of the uppermost one.  So two measurements
are one series if and only if they agree on name, statistic and every other value that can be seen;
and series of meters that keep clear of the reserved and the common keys are told apart by identity
and statistic. -/
theorem series_known_by_tags (common : Tags) :
    (∀ m, Record.Layered common m (Record.ofMeasurement common m).tags) ∧
    (∀ m m', (Record.ofMeasurement common m).tags.toList = (Record.ofMeasurement common m').tags.toList ↔
      m.id.name = m'.id.name ∧ m.statistic = m'.statistic ∧
        ∀ key, key ≠ nameKey → key ≠ statisticKey →
          m.id.effective? common key = m'.id.effective? common key) ∧
    ∀ m m' : Measurement, m.id.KeepsClear common → m'.id.KeepsClear common →
      (m.id, m.statistic) ≠ (m'.id, m'.statistic) →
      (Record.ofMeasurement common m).tags.toList ≠ (Record.ofMeasurement common m').tags.toList := by
  have hlist : ∀ {ts us : Tags}, ts.toList = us.toList ↔ ts = us :=
    ⟨Tags.ext, congrArg Tags.toList⟩
  refine ⟨Record.layered_ofMeasurement common, ?_, ?_⟩
  · intro m m'
    exact hlist.trans Record.tags_eq_iff
  · intro m m' hclear hclear' hne h
    obtain ⟨hname, hstatistic, heffective⟩ := Record.tags_eq_iff.mp (hlist.mp h)
    have hid : m.id = m'.id := Id.eq_of_effective?_eq hclear hclear' hname heffective
    exact hne (Prod.ext hid hstatistic)

/-- A key of its own makes a meter a series of its own, and a reserved key does not. -/
theorem reserved_key_makes_no_series :
    let common : Tags := ⟨[("name", "none"), ("region", "eu")], by unfold StrictlyKeyed; decide⟩
    let tagged (ts : Tags) : Measurement := ⟨Id.ofTags "requests" ts, .count, .zero⟩
    let plain := tagged .empty
    let own := tagged ⟨[("status", "ok")], List.pairwise_singleton _ _⟩
    let reserved := tagged ⟨[("name", "other")], List.pairwise_singleton _ _⟩
    (plain.id.KeepsClear common ∧ own.id.KeepsClear common ∧ ¬ reserved.id.KeepsClear common) ∧
      (Record.ofMeasurement common plain).tags.toList ≠ (Record.ofMeasurement common own).tags.toList ∧
      plain.id ≠ reserved.id ∧ (Record.ofMeasurement common plain).tags.toList =
        (Record.ofMeasurement common reserved).tags.toList := by
  intro common tagged plain own reserved
  have hplain : plain.id.KeepsClear common := by
    unfold Id.KeepsClear
    decide
  have hown : own.id.KeepsClear common := by
    unfold Id.KeepsClear
    decide
  have hreserved : ¬ reserved.id.KeepsClear common := by
    unfold Id.KeepsClear
    decide
  obtain ⟨-, hsame, hapart⟩ := series_known_by_tags common
  refine ⟨⟨hplain, hown, hreserved⟩, ?_, ?_, ?_⟩
  · apply hapart plain own hplain hown
    exact fun h => absurd (congrArg (fun p => p.1.tags.toList) h) (by decide)
  · exact fun h => absurd (congrArg (·.tags.toList) h) (by decide)
  · refine (hsame plain reserved).mpr ⟨rfl, rfl, fun key hname _ => ?_⟩
    have htag : reserved.id.tag? key = none := by
      show lookupTag key [("name", "other")] = none
      simp only [lookupTag, if_neg (Ne.symm hname : ¬ "name" = key), ite_self]
    rw [Id.effective?, Id.effective?, htag]
    rfl

end DimensionalMetrics
