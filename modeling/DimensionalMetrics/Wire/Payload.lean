import DimensionalMetrics.Json.Value
import DimensionalMetrics.Search
import DimensionalMetrics.Wire.Record

/-!
# Payloads

A payload is one flat JSON array: the number of strings, the strings, then the records.  A record is
its number of tags, the keys and values of these, the code of its combination and its value, where
keys and values are given by their places among the strings.  The strings are those of the records
of this payload, each one once and in increasing order, so a place is found by binary search.
-/

namespace DimensionalMetrics

/-- A record whose strings are places in a table. -/
structure IndexedRecord where
  tags : List (UInt32 × UInt32)
  combination : Combination
  value : Binary64
deriving DecidableEq

/-- Records with a table of their strings. -/
structure Payload where
  strings : Array String
  records : List IndexedRecord
deriving DecidableEq

/-- Whether a string does not come after another. -/
def stringLe (a b : String) : Bool := decide (a ≤ b)

/-- The keys and values of records, with repetitions. -/
def stringsOfRecords (rs : List Record) : List String :=
  rs.flatMap fun r => r.tags.toList.flatMap fun t => [t.1, t.2]

/-- The strings of a list in increasing order, each one once. -/
def sortedStrings (ss : List String) : List String := (ss.mergeSort stringLe).eraseReps

/-- The place of a string in an increasing table, or zero if it has none. -/
def placeOf (strings : Array String) (s : String) : Nat :=
  let i := partitionPoint (fun i => decide (strings.getD i "" < s)) 0 strings.size
  if strings[i]? = some s then i else 0

def Record.index (strings : Array String) (r : Record) : IndexedRecord where
  tags := r.tags.toList.map fun (k, v) =>
    (UInt32.ofNat (placeOf strings k), UInt32.ofNat (placeOf strings v))
  combination := r.combination
  value := r.value

namespace Payload

def ofRecords (rs : List Record) : Payload :=
  let strings := (sortedStrings (stringsOfRecords rs)).toArray
  ⟨strings, rs.map (Record.index strings)⟩

def size (p : Payload) : Nat := p.records.length

/-- The number of elements of the array, known before it is written. -/
def elementCount (p : Payload) : Nat :=
  1 + p.strings.size + p.records.foldr (fun r n => 3 + 2 * r.tags.length + n) 0

/-- The elements that a record takes up in the array. -/
def recordElements (r : IndexedRecord) : List Json :=
  .nat r.tags.length ::
    (r.tags.flatMap fun (k, v) => [.nat k.toNat, .nat v.toNat]) ++
    [.nat r.combination.code, .real r.value]

def elements (p : Payload) : List Json :=
  .nat p.strings.size :: (p.strings.toList.map .str ++ p.records.flatMap recordElements)

def text (p : Payload) : String := (Json.arr p.elements).text

end Payload

/-! ### Batches -/

/-- A list cut into pieces of one length, the last of which may be shorter.  Pieces of length zero
are made one long. -/
def chunks {α : Type} (size : Nat) (xs : List α) : List (List α) :=
  match xs with
  | [] => []
  | x :: rest => (x :: rest.take (size - 1)) :: chunks size (rest.drop (size - 1))
termination_by xs.length
decreasing_by simp only [List.length_drop, List.length_cons]; omega

/-- Cutting loses nothing and changes no order. -/
@[simp] theorem flatten_chunks {α : Type} (size : Nat) (xs : List α) :
    (chunks size xs).flatten = xs := by
  fun_induction chunks size xs with
  | case1 => rfl
  | case2 x rest ih =>
    rw [List.flatten_cons, ih, List.cons_append, List.take_append_drop]

/-- Every piece has an element, and no more than a piece may have. -/
theorem length_of_mem_chunks {α : Type} {size : Nat} {xs piece : List α}
    (h : piece ∈ chunks size xs) : 0 < piece.length ∧ piece.length ≤ max size 1 := by
  fun_induction chunks size xs with
  | case1 => exact absurd h List.not_mem_nil
  | case2 x rest ih =>
    rcases List.mem_cons.mp h with rfl | h
    · simp only [List.length_cons, List.length_take]
      omega
    · exact ih h

/-- The payloads of records, each of at most `size` of them. -/
def batches (size : Nat) (rs : List Record) : List Payload :=
  (chunks size rs).map Payload.ofRecords

end DimensionalMetrics
