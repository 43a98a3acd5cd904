import DimensionalMetrics.Proofs.Text.Utf8
import DimensionalMetrics.Proofs.Wire.RoundTrip
import Mathlib.Data.List.Forall2

/-!
# Batches

A list of records is cut into batches, and each of them becomes a payload.  What a payload says does
not depend on the others: its table holds the strings of its own records and no more, no search in the
table fails, so the records refer to the strings that are meant, and the array has as many elements as
are announced before it is written.  So every payload can be read alone, and together they are read as
the records of the whole list, wherever it was cut.
-/

namespace DimensionalMetrics

/-! ### Cutting a list -/

section Chunks

variable {α : Type}

theorem length_chunks {size : Nat} (hsize : 1 ≤ size) (xs : List α) :
    (chunks size xs).length = (xs.length + size - 1) / size := by
  fun_induction chunks size xs with
  | case1 =>
    rw [List.length_nil, List.length_nil, Nat.div_eq_of_lt (by omega)]
  | case2 x rest ih =>
    rw [List.length_cons, ih, List.length_drop, List.length_cons]
    by_cases hle : rest.length ≤ size - 1
    · have hlast : (rest.length - (size - 1) + size - 1) / size = 0 := Nat.div_eq_of_lt (by omega)
      have hone : (rest.length + 1 + size - 1) / size = 1 := by
        rw [Nat.div_eq_iff (by omega)]
        omega
      rw [hlast, hone]
    · have hrest : rest.length - (size - 1) + size - 1 = rest.length := by omega
      have hall : rest.length + 1 + size - 1 = rest.length + size := by omega
      rw [hrest, hall, Nat.add_div_right _ (by omega)]

theorem chunks_eq_nil {size : Nat} {xs : List α} : chunks size xs = [] ↔ xs = [] := by
  cases xs with
  | nil => simp [chunks]
  | cons x rest => simp [chunks]

/-- Only the last piece may be shorter. -/
theorem length_of_mem_dropLast_chunks {size : Nat} (hsize : 1 ≤ size) {xs piece : List α}
    (h : piece ∈ (chunks size xs).dropLast) : piece.length = size := by
  fun_induction chunks size xs with
  | case1 => exact absurd h List.not_mem_nil
  | case2 x rest ih =>
    by_cases hnil : chunks size (rest.drop (size - 1)) = []
    · rw [hnil] at h
      exact absurd h List.not_mem_nil
    · rw [List.dropLast_cons_of_ne_nil hnil] at h
      rcases List.mem_cons.mp h with rfl | h
      · have hlong : size - 1 < rest.length := by
          by_contra hle
          exact hnil (chunks_eq_nil.mpr (List.drop_eq_nil_of_le (Nat.le_of_not_lt hle)))
        rw [List.length_cons, List.length_take]
        omega
      · exact ih h

/-- To ask for no length is to ask for length one. -/
theorem chunks_max_one (size : Nat) (xs : List α) : chunks (max size 1) xs = chunks size xs := by
  have hsize : max size 1 - 1 = size - 1 := by omega
  fun_induction chunks size xs with
  | case1 => rw [chunks]
  | case2 x rest ih => rw [chunks, hsize, ih]

end Chunks

theorem batches_max_one (size : Nat) (rs : List Record) :
    batches (max size 1) rs = batches size rs := by
  rw [batches, chunks_max_one, batches]

/-- Fewer records never use more strings. -/
theorem card_strings_of_mem_chunks {size : Nat} {rs b : List Record} (hb : b ∈ chunks size rs) :
    (stringsOfRecords b).toFinset.card ≤ (stringsOfRecords rs).length := by
  refine le_trans (Finset.card_le_card ?_) (List.toFinset_card_le _)
  intro s hs
  rw [List.mem_toFinset, stringsOfRecords, List.mem_flatMap] at hs ⊢
  obtain ⟨rec, hrec, hs⟩ := hs
  refine ⟨rec, ?_, hs⟩
  rw [← flatten_chunks size rs]
  exact List.mem_flatten_of_mem hb hrec

namespace Payload

/-! ### The number of elements -/

theorem length_recordElements (r : IndexedRecord) :
    (recordElements r).length = 3 + 2 * r.tags.length := by
  obtain ⟨tags, combination, value⟩ := r
  induction tags with
  | nil => rfl
  | cons t tags ih =>
    simp only [recordElements, List.flatMap_cons, List.length_cons, List.length_append,
      List.length_nil] at ih ⊢
    omega

/-- The array has as many elements as are announced before it is written. -/
theorem length_elements (p : Payload) : p.elements.length = p.elementCount := by
  have hrecords : ∀ rs : List IndexedRecord, (rs.flatMap recordElements).length =
      rs.foldr (fun r n => 3 + 2 * r.tags.length + n) 0 := by
    intro rs
    induction rs with
    | nil => rfl
    | cons r rs ih =>
      rw [List.flatMap_cons, List.length_append, ih, length_recordElements, List.foldr_cons]
  simp only [elements, elementCount, List.length_cons, List.length_append, List.length_map,
    Array.length_toList, hrecords]
  omega

/-! ### The table of one payload -/

theorem mem_strings_ofRecords {rs : List Record} {s : String} :
    s ∈ (ofRecords rs).strings ↔ ∃ r ∈ rs, ∃ t ∈ r.tags.toList, s = t.1 ∨ s = t.2 := by
  simp only [ofRecords, List.mem_toArray, mem_sortedStrings, stringsOfRecords, List.mem_flatMap,
    List.mem_cons, List.not_mem_nil, or_false]

theorem size_strings_ofRecords (rs : List Record) :
    (ofRecords rs).strings.size = (stringsOfRecords rs).toFinset.card := by
  rw [ofRecords, List.size_toArray, length_sortedStrings]

theorem placeOf?_strings_ofRecords {rs : List Record} {s : String}
    (hs : s ∈ (ofRecords rs).strings) :
    ∃ i, placeOf? (ofRecords rs).strings s = some i ∧ (ofRecords rs).strings[i]? = some s := by
  obtain ⟨i, hi⟩ := List.mem_iff_getElem?.mp (List.mem_toArray.mp hs)
  refine ⟨i, placeOf?_eq_some (pairwise_sortedStrings _) hi, ?_⟩
  rw [ofRecords, List.getElem?_toArray]
  exact hi

/-- The field holds the place of the string, which the search found and nothing was cut off from. -/
def RefersTo (strings : Array String) (field : UInt32) (s : String) : Prop :=
  placeOf? strings s = some field.toNat ∧ strings[field.toNat]? = some s

theorem refersTo_placeOf {rs : List Record} (hsize : (ofRecords rs).strings.size ≤ 2 ^ 32)
    {s : String} (hs : s ∈ (ofRecords rs).strings) :
    RefersTo (ofRecords rs).strings (.ofNat (placeOf (ofRecords rs).strings s)) s := by
  obtain ⟨i, hfound, hthere⟩ := placeOf?_strings_ofRecords hs
  have hi : i < (ofRecords rs).strings.size := (Array.getElem?_eq_some_iff.mp hthere).1
  have hfield : (UInt32.ofNat i).toNat = i :=
    UInt32.toNat_ofNat_of_lt' (by unfold UInt32.size; omega)
  rw [placeOf_eq_getD, hfound, Option.getD_some, RefersTo, hfield]
  exact ⟨hfound, hthere⟩

/-- A record with places for its strings is that record. -/
structure Encodes (strings : Array String) (r : Record) (indexed : IndexedRecord) : Prop where
  tags : List.Forall₂ (fun t fields => RefersTo strings fields.1 t.1 ∧ RefersTo strings fields.2 t.2)
    r.tags.toList indexed.tags
  combination : indexed.combination = r.combination
  value : indexed.value = r.value

theorem encodes_index {rs : List Record} (hsize : (ofRecords rs).strings.size ≤ 2 ^ 32)
    {r : Record} (hr : r ∈ rs) : Encodes (ofRecords rs).strings r (r.index (ofRecords rs).strings) where
  tags := by
    rw [Record.index, List.forall₂_map_right_iff, List.forall₂_same]
    intro t ht
    exact ⟨refersTo_placeOf hsize (mem_strings_ofRecords.mpr ⟨r, hr, t, ht, .inl rfl⟩),
      refersTo_placeOf hsize (mem_strings_ofRecords.mpr ⟨r, hr, t, ht, .inr rfl⟩)⟩
  combination := rfl
  value := rfl

/-- A payload needs no other one: what its table holds, what its records refer to, and what it is
read as.  A place is a field of thirty-two bits. -/
structure SelfContained (rs : List Record) (p : Payload) : Prop where
  increasing : p.strings.toList.Pairwise fun s t => utf8 s < utf8 t
  minimal : ∀ s, s ∈ p.strings ↔ ∃ r ∈ rs, ∃ t ∈ r.tags.toList, s = t.1 ∨ s = t.2
  found : ∀ s ∈ p.strings, ∃ i, placeOf? p.strings s = some i ∧ p.strings[i]? = some s
  encodes : p.strings.size ≤ 2 ^ 32 → List.Forall₂ (Encodes p.strings) rs p.records
  announced : p.elements.length = p.elementCount
  elements : p.strings.size ≤ 2 ^ 32 → recordsOfElements? p.elements = some rs
  /-- A number that is not finite has no text. -/
  text : p.strings.size ≤ 2 ^ 32 → (∀ r ∈ rs, r.value.isFinite = true) → read? p.text = some rs

theorem selfContained_ofRecords (rs : List Record) : SelfContained rs (ofRecords rs) where
  increasing := (pairwise_sortedStrings _).imp utf8_lt_utf8_iff.mpr
  minimal _ := mem_strings_ofRecords
  found _ := placeOf?_strings_ofRecords
  encodes := by
    intro hsize
    have hrecords : (ofRecords rs).records = rs.map (Record.index (ofRecords rs).strings) := rfl
    rw [hrecords, List.forall₂_map_right_iff, List.forall₂_same]
    exact fun r hr => encodes_index hsize hr
  announced := length_elements _
  elements := by
    intro hsize
    rw [size_strings_ofRecords] at hsize
    exact recordsOfElements?_elements hsize
  text := by
    intro hsize hfinite
    rw [size_strings_ofRecords] at hsize
    exact read?_text_ofRecords hfinite hsize

/-! ### All payloads together -/

/-- The records of some payloads, each of which is read alone. -/
def together? (read : Payload → Option (List Record)) (ps : List Payload) : Option (List Record) :=
  (ps.mapM read).map List.flatten

theorem together?_eq_some {read : Payload → Option (List Record)} {pieces : List (List Record)}
    {ps : List Payload} (h : List.Forall₂ (fun piece p => read p = some piece) pieces ps) :
    together? read ps = some pieces.flatten := by
  have hmap : ps.mapM read = some pieces := by
    induction h with
    | nil => rfl
    | cons hread _ ih => simp [List.mapM_cons, hread, ih]
  rw [together?, hmap, Option.map_some]

theorem forall₂_batches {R : List Record → Payload → Prop} {size : Nat} {rs : List Record}
    (h : ∀ piece ∈ chunks size rs, R piece (ofRecords piece)) :
    List.Forall₂ R (chunks size rs) (batches size rs) := by
  rw [batches, List.forall₂_map_right_iff, List.forall₂_same]
  exact h

theorem together?_batches {read : Payload → Option (List Record)} {size : Nat} {rs : List Record}
    (h : ∀ piece ∈ chunks size rs, read (ofRecords piece) = some piece) :
    together? read (batches size rs) = some rs := by
  rw [together?_eq_some (forall₂_batches h), flatten_chunks]

/-- No table has more strings than there are places. -/
def Fits (size : Nat) (rs : List Record) : Prop :=
  ∀ p ∈ batches size rs, p.strings.size ≤ 2 ^ 32

theorem fits_of_length_le {size : Nat} {rs : List Record}
    (h : (stringsOfRecords rs).length ≤ 2 ^ 32) : Fits size rs := by
  intro p hp
  obtain ⟨piece, hpiece, rfl⟩ := List.mem_map.mp hp
  rw [size_strings_ofRecords]
  exact (card_strings_of_mem_chunks hpiece).trans h

theorem Fits.size_le {size : Nat} {rs piece : List Record} (h : Fits size rs)
    (hpiece : piece ∈ chunks size rs) : (ofRecords piece).strings.size ≤ 2 ^ 32 :=
  h _ (List.mem_map_of_mem hpiece)

end Payload

open Payload

/-- **Every payload is self-contained, wherever the records are cut.**  The payloads are those of the
pieces of the list, and each has the strings of its own piece, places that are found and the length
that was announced.  However long the pieces are meant to be, all together they are read as the
records of the list. -/
theorem batches_self_contained (rs : List Record) :
    (∀ size, ∃ pieces : List (List Record), pieces.flatten = rs ∧
      (∀ piece ∈ pieces, 1 ≤ piece.length ∧ piece.length ≤ max size 1) ∧
      (∀ piece ∈ pieces.dropLast, piece.length = max size 1) ∧
      List.Forall₂ SelfContained pieces (batches size rs)) ∧
    batches 0 rs = batches 1 rs ∧
    ∀ size, Fits size rs →
      together? (recordsOfElements? ·.elements) (batches size rs) = some rs ∧
      ((∀ r ∈ rs, r.value.isFinite = true) →
        together? (read? ·.text) (batches size rs) = some rs) := by
  refine ⟨?_, (batches_max_one 0 rs).symm, ?_⟩
  · intro size
    refine ⟨chunks size rs, flatten_chunks size rs, fun _ => length_of_mem_chunks, ?_, ?_⟩
    · rw [← chunks_max_one]
      exact fun _ => length_of_mem_dropLast_chunks (Nat.le_max_right size 1)
    · exact forall₂_batches fun piece _ => selfContained_ofRecords piece
  · intro size hfits
    constructor
    · apply together?_batches
      exact fun piece hpiece => (selfContained_ofRecords piece).elements (hfits.size_le hpiece)
    · intro hfinite
      apply together?_batches
      intro piece hpiece
      refine (selfContained_ofRecords piece).text (hfits.size_le hpiece) fun r hr => hfinite r ?_
      rw [← flatten_chunks size rs]
      exact List.mem_flatten_of_mem hpiece hr

/-- Two records that have strings in common, each in a payload of its own or both in one. -/
theorem shared_strings_self_contained :
    let tags (name : String) : List Tag := [("name", name), ("statistic", "count")]
    let rs : List Record := [⟨⟨tags "a", by unfold StrictlyKeyed; decide⟩, .sum, .zero⟩,
      ⟨⟨tags "count", by unfold StrictlyKeyed; decide⟩, .sum, .infinity⟩]
    (Fits 0 rs ∧ together? (recordsOfElements? ·.elements) (batches 0 rs) = some rs) ∧
      Fits 2 rs ∧ together? (recordsOfElements? ·.elements) (batches 2 rs) = some rs ∧
      together? (read? ·.text) (batches 2 (rs.take 1)) = some (rs.take 1) := by
  intro tags rs
  have hfits : ∀ size, Fits size rs := fun size => fits_of_length_le (by decide)
  obtain ⟨-, -, hread⟩ := batches_self_contained rs
  obtain ⟨-, -, hfirst⟩ := batches_self_contained (rs.take 1)
  refine ⟨⟨hfits 0, (hread 0 (hfits 0)).1⟩, hfits 2, (hread 2 (hfits 2)).1, ?_⟩
  exact (hfirst 2 (fits_of_length_le (by decide))).2 (by decide)

end DimensionalMetrics
