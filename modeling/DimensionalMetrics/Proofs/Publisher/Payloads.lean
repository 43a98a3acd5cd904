import DimensionalMetrics.Proofs.Publisher.Delivery
import DimensionalMetrics.Proofs.Simulation.Publishing

/-!
# What a publish computes is defined

A publish cuts lists into pieces, looks strings up and counts.  With a configuration that can be
used the pieces have a positive length, every string is found in the table of its payload, the array
of a payload has as many elements as are announced before it is written, and no more records arrive
than there are.
-/

namespace DimensionalMetrics

/-- A piece of a sweep that can be written: its length is one that was asked for, its strings are
found in its table, and the array is as long as is announced. -/
structure Encodable (size : Nat) (piece : List Record) : Prop where
  pos : 0 < piece.length
  le : piece.length ≤ size
  found : ∀ r ∈ piece, ∀ t ∈ r.tags.toList, ∀ s ∈ [t.1, t.2],
    (sortedStrings (stringsOfRecords piece))[placeOf (Payload.ofRecords piece).strings s]? = some s
  announced : (Payload.ofRecords piece).elements.length = (Payload.ofRecords piece).elementCount

theorem encodable_of_mem_chunks {size : Nat} (hsize : 0 < size) {rs piece : List Record}
    (hpiece : piece ∈ chunks size rs) : Encodable size piece := by
  obtain ⟨hpos, hle⟩ := length_of_mem_chunks hpiece
  refine ⟨hpos, by omega, ?_, Payload.length_elements _⟩
  intro r hr t ht s hs
  apply getElem?_placeOf (pairwise_sortedStrings _)
  rw [mem_sortedStrings]
  obtain ⟨hkey, hvalue⟩ := mem_stringsOfRecords hr ht
  simp only [List.mem_cons, List.not_mem_nil, or_false] at hs
  rcases hs with rfl | rfl
  · exact hkey
  · exact hvalue

namespace Delivery

/-- There are enough records for those that arrived and those that are still to be answered. -/
def Covered (d : Delivery) : Prop := d.sent + (d.waiting.map Payload.size).sum ≤ d.total

theorem covered_ofMeasurements (config : Config) (ms : List Measurement) :
    (ofMeasurements config ms).Covered := by
  have hsizes : ((batches config.batchSize (records config ms)).map Payload.size).sum =
      (records config ms).length := by
    have hsize : Payload.size ∘ Payload.ofRecords = List.length := by
      funext rs
      simp only [Function.comp_apply, Payload.size, Payload.ofRecords, List.length_map]
    rw [batches, List.map_map, hsize, ← List.length_flatten, flatten_chunks]
  simp only [Covered, ofMeasurements, hsizes]
  omega

theorem Covered.after {d : Delivery} (h : d.Covered) (outcomes : List Outcome) :
    (d.after outcomes).Covered := by
  induction outcomes generalizing d with
  | nil => exact h
  | cons o outcomes ih =>
    cases hw : d.waiting with
    | nil => rwa [after_of_nil hw]
    | cons payload rest =>
      rw [after_cons hw]
      apply ih
      rw [Covered, hw, List.map_cons, List.sum_cons] at h
      rw [Covered, waiting_settle, total_settle, sent_settle]
      split
      · omega
      · omega

end Delivery

end DimensionalMetrics
