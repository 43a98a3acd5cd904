import DimensionalMetrics.Proofs.Json.RoundTrip
import DimensionalMetrics.Proofs.Tags.Lookup
import DimensionalMetrics.Proofs.Wire.Table
import DimensionalMetrics.Wire.Reader

/-!
# Payloads are read back

A payload has no marks between its parts: the reader knows from each count how many elements belong to
what comes next.  So each lemma says of one part that the reader takes exactly the elements of that part
and leaves what follows, and the records of the whole text are those that were written, in their order,
with nothing left over.
-/

namespace DimensionalMetrics

@[simp] theorem Tags.empty_overlay (ts : Tags) : Tags.empty.overlay ts = ts :=
  Tags.ext (mergeTags.eq_1 ts.toList)

namespace Payload

/-! ### One part after the other -/

theorem combinationOfCode?_code (c : Combination) : combinationOfCode? c.code = some c := by
  cases c <;> rfl

theorem readStrings?_append (strings : List String) (rest : List Json) :
    readStrings? strings.length (strings.map .str ++ rest) = some (strings, rest) := by
  induction strings with
  | nil => rfl
  | cons s strings ih =>
    rw [List.length_cons, List.map_cons, List.cons_append, readStrings?, ih]
    rfl

variable {strings : List String}

theorem readTags?_append (hsorted : strings.Pairwise (· < ·)) (hsize : strings.length ≤ 2 ^ 32)
    (ts : List Tag) (hts : ∀ t ∈ ts, t.1 ∈ strings ∧ t.2 ∈ strings) (rest : List Json) :
    readTags? strings ts.length
      (ts.flatMap (fun t => [Json.nat (UInt32.ofNat (placeOf strings.toArray t.1)).toNat,
        Json.nat (UInt32.ofNat (placeOf strings.toArray t.2)).toNat]) ++ rest) = some (ts, rest) := by
  induction ts with
  | nil => rfl
  | cons t ts ih =>
    obtain ⟨hkey, hvalue⟩ := hts t List.mem_cons_self
    have hrest := ih fun u hu => hts u (List.mem_cons_of_mem _ hu)
    rw [List.length_cons, List.flatMap_cons, List.append_assoc, List.cons_append, List.cons_append,
      List.nil_append, readTags?, getElem?_toNat_placeOf hsorted hsize hkey,
      getElem?_toNat_placeOf hsorted hsize hvalue, hrest]
    rfl

theorem recordElements_index (strings : Array String) (r : Record) :
    recordElements (r.index strings) =
      Json.nat r.tags.toList.length ::
        (r.tags.toList.flatMap (fun t => [Json.nat (UInt32.ofNat (placeOf strings t.1)).toNat,
          Json.nat (UInt32.ofNat (placeOf strings t.2)).toNat]) ++
          [Json.nat r.combination.code, Json.real r.value]) := by
  simp [recordElements, Record.index, List.flatMap_map]

theorem readRecord?_append (hsorted : strings.Pairwise (· < ·)) (hsize : strings.length ≤ 2 ^ 32)
    (r : Record) (hr : ∀ t ∈ r.tags.toList, t.1 ∈ strings ∧ t.2 ∈ strings) (rest : List Json) :
    readRecord? strings (recordElements (r.index strings.toArray) ++ rest) = some (r, rest) := by
  have htags := readTags?_append hsorted hsize r.tags.toList hr
    (Json.nat r.combination.code :: Json.real r.value :: rest)
  rw [recordElements_index, List.cons_append, List.append_assoc, readRecord?]
  simp only [List.cons_append, List.nil_append, htags, Option.bind_eq_bind, Option.bind_some,
    combinationOfCode?_code, Tags.ofList_toList]
  rfl

theorem readRecords?_flatMap (hsorted : strings.Pairwise (· < ·)) (hsize : strings.length ≤ 2 ^ 32)
    (rs : List Record) (hrs : ∀ r ∈ rs, ∀ t ∈ r.tags.toList, t.1 ∈ strings ∧ t.2 ∈ strings)
    {fuel : Nat} (hfuel : rs.length ≤ fuel) :
    readRecords? strings fuel (rs.flatMap fun r => recordElements (r.index strings.toArray)) =
      some rs := by
  induction rs generalizing fuel with
  | nil =>
    rw [List.flatMap_nil]
    cases fuel <;> rfl
  | cons r rs ih =>
    obtain ⟨fuel, rfl⟩ : ∃ k, fuel = k + 1 := by
      rw [List.length_cons] at hfuel
      exact ⟨fuel - 1, by omega⟩
    have hrecord := readRecord?_append hsorted hsize r (hrs r List.mem_cons_self)
      (rs.flatMap fun r => recordElements (r.index strings.toArray))
    have hrest := ih (fun u hu => hrs u (List.mem_cons_of_mem _ hu)) (Nat.le_of_succ_le_succ hfuel)
    rw [List.flatMap_cons, readRecords?, hrecord]
    · simp only [Option.bind_eq_bind, Option.bind_some, hrest]
      rfl
    · rw [recordElements_index]
      simp

theorem length_le_length_elements (strings : Array String) (rs : List Record) :
    rs.length ≤ (rs.flatMap fun r => recordElements (r.index strings)).length := by
  induction rs with
  | nil => exact Nat.le_refl _
  | cons r rs ih =>
    rw [List.flatMap_cons, List.length_append, recordElements_index]
    simp only [List.length_cons]
    omega

theorem recordsOfElements?_elements {rs : List Record}
    (hstrings : (stringsOfRecords rs).toFinset.card ≤ 2 ^ 32) :
    recordsOfElements? (ofRecords rs).elements = some rs := by
  obtain ⟨strings, hs⟩ : ∃ strings, strings = sortedStrings (stringsOfRecords rs) := ⟨_, rfl⟩
  have hsorted : strings.Pairwise (· < ·) := by
    rw [hs]
    exact pairwise_sortedStrings _
  have hsize : strings.length ≤ 2 ^ 32 := by
    rw [hs, length_sortedStrings]
    exact hstrings
  have hmem : ∀ r ∈ rs, ∀ t ∈ r.tags.toList, t.1 ∈ strings ∧ t.2 ∈ strings := by
    intro r hr t ht
    rw [hs, mem_sortedStrings, mem_sortedStrings]
    exact mem_stringsOfRecords hr ht
  have hrecords := readRecords?_flatMap hsorted hsize rs hmem
    (length_le_length_elements strings.toArray rs)
  simp only [elements, ofRecords, ← hs, List.size_toArray, List.flatMap_map, recordsOfElements?,
    readStrings?_append, Option.bind_eq_bind, Option.bind_some]
  exact hrecords

/-! ### The whole text -/

theorem allFinite_elements {rs : List Record} (hfinite : ∀ r ∈ rs, r.value.isFinite = true) :
    (Json.arr (ofRecords rs).elements).AllFinite := by
  show Json.AllFiniteItems _
  rw [Json.allFiniteItems_iff]
  intro item hitem
  simp only [elements, ofRecords, recordElements_index, List.flatMap_map, List.mem_cons,
    List.mem_append, List.mem_map, List.mem_flatMap, List.not_mem_nil, or_false] at hitem
  rcases hitem with rfl | ⟨s, -, rfl⟩ | ⟨r, hr, rfl | ⟨t, -, rfl | rfl⟩ | rfl | rfl⟩
  · trivial
  · trivial
  · trivial
  · trivial
  · trivial
  · trivial
  · exact hfinite r hr

/-- The records of a text are those that were written. -/
theorem read?_text_ofRecords {rs : List Record} (hfinite : ∀ r ∈ rs, r.value.isFinite = true)
    (hstrings : (stringsOfRecords rs).toFinset.card ≤ 2 ^ 32) :
    read? (ofRecords rs).text = some rs := by
  rw [read?, text, Json.read?_text (allFinite_elements hfinite)]
  exact recordsOfElements?_elements hstrings

/-- **Decoding undoes encoding.**  Whatever the common tags, names, keys and values are, the text of the
records of measurements is a JSON array, and its elements are read to the last one as those records. -/
theorem measurements_read_back (common : Tags) (ms : List Measurement)
    (hfinite : ∀ m ∈ ms, m.value.isFinite = true)
    (hstrings : (stringsOfRecords (ms.map (.ofMeasurement common))).toFinset.card ≤ 2 ^ 32) :
    ∃ elements,
      Json.read? (ofRecords (ms.map (.ofMeasurement common))).text = some (.arr elements) ∧
        recordsOfElements? elements = some (ms.map (.ofMeasurement common)) := by
  have hvalues : ∀ r ∈ ms.map (Record.ofMeasurement common), r.value.isFinite = true := by
    intro r hr
    obtain ⟨m, hm, rfl⟩ := List.mem_map.mp hr
    exact hfinite m hm
  refine ⟨(ofRecords (ms.map (.ofMeasurement common))).elements, ?_, ?_⟩
  · exact Json.read?_text (allFinite_elements hvalues)
  · exact recordsOfElements?_elements hstrings

/-- An empty name, a quote, a backslash, a control, and a zero with a sign. -/
theorem odd_measurement_read_back :
    let tags : Tags := ⟨[("", "é"), ("\"", "\\\x01")], by unfold StrictlyKeyed; decide⟩
    let m : Measurement := ⟨Id.ofTags "" tags, .gauge, Binary64.zero.negate⟩
    m.value.isFinite = true ∧ m.value ≠ Binary64.zero ∧
      ∃ elements, Json.read? (ofRecords [.ofMeasurement .empty m]).text = some (.arr elements) ∧
        recordsOfElements? elements = some [.ofMeasurement .empty m] := by
  intro tags m
  refine ⟨by decide, by decide, measurements_read_back .empty [m] ?_ ?_⟩
  · intro m' hm'
    rw [List.mem_singleton.mp hm']
    decide
  · refine (List.toFinset_card_le _).trans ?_
    simp only [List.map_cons, List.map_nil, Record.ofMeasurement, Tags.empty_overlay]
    decide

end Payload

end DimensionalMetrics
