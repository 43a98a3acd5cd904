import DimensionalMetrics.Wire.Payload
import Mathlib.Algebra.Group.Nat.Defs
import Mathlib.Data.Finset.Card
import Mathlib.Data.Finset.Dedup

/-!
# The table of strings

The table of a payload is strictly increasing and holds exactly the strings of its records, so it has
as many entries as the records use distinct strings.  The binary search finds the place of each of
them, and the place fits the field it is written to as long as there are no more than `2 ^ 32` strings.
-/

namespace DimensionalMetrics

/-! ### Erasing repetitions -/

section Repetitions

variable {α : Type} [DecidableEq α]

theorem eraseRepsBy_loop (a : α) (l acc : List α) :
    List.eraseRepsBy.loop (· == ·) a l acc =
      acc.reverse ++ List.eraseRepsBy.loop (· == ·) a l [] := by
  induction l generalizing a acc with
  | nil => simp [List.eraseRepsBy.loop]
  | cons b l ih =>
    by_cases h : a = b
    · simp only [List.eraseRepsBy.loop, beq_iff_eq.mpr h]
      exact ih a acc
    · simp only [List.eraseRepsBy.loop, beq_eq_false_iff_ne.mpr h]
      rw [ih b (a :: acc), ih b [a]]
      simp

theorem eraseReps_cons_cons (a b : α) (l : List α) :
    (a :: b :: l).eraseReps =
      if a = b then (a :: l).eraseReps else a :: (b :: l).eraseReps := by
  by_cases h : a = b
  · simp only [List.eraseReps, List.eraseRepsBy, List.eraseRepsBy.loop, beq_iff_eq.mpr h, if_pos h]
  · simp only [List.eraseReps, List.eraseRepsBy, List.eraseRepsBy.loop, beq_eq_false_iff_ne.mpr h,
      if_neg h]
    rw [eraseRepsBy_loop b l [a]]
    rfl

theorem mem_eraseReps {x : α} {l : List α} : x ∈ l.eraseReps ↔ x ∈ l := by
  match l with
  | [] => exact Iff.rfl
  | [a] => exact Iff.rfl
  | a :: b :: l =>
    have h₁ := mem_eraseReps (x := x) (l := a :: l)
    have h₂ := mem_eraseReps (x := x) (l := b :: l)
    rw [eraseReps_cons_cons]
    split
    · rename_i hab
      rw [h₁, hab]
      simp
    · rw [List.mem_cons, h₂, List.mem_cons (a := x) (b := a)]
termination_by l.length

end Repetitions

theorem pairwise_eraseReps {l : List String} (h : l.Pairwise (· ≤ ·)) :
    l.eraseReps.Pairwise (· < ·) := by
  match l with
  | [] => exact .nil
  | [a] => exact List.pairwise_singleton _ a
  | a :: b :: l =>
    obtain ⟨hhead, htail⟩ := List.pairwise_cons.mp h
    have hshort : (a :: l).Pairwise (· ≤ ·) :=
      List.pairwise_cons.mpr ⟨fun x hx => hhead x (List.mem_cons_of_mem _ hx),
        (List.pairwise_cons.mp htail).2⟩
    have h₁ := pairwise_eraseReps hshort
    have h₂ := pairwise_eraseReps htail
    rw [eraseReps_cons_cons]
    split
    · exact h₁
    · rename_i hab
      refine List.pairwise_cons.mpr ⟨fun x hx => ?_, h₂⟩
      have hlt : a < b := string_lt_of_le_of_ne (hhead b List.mem_cons_self) hab
      rcases List.mem_cons.mp (mem_eraseReps.mp hx) with rfl | hx
      · exact hlt
      · exact Std.lt_of_lt_of_le hlt ((List.pairwise_cons.mp htail).1 x hx)
termination_by l.length

/-! ### The strings in order -/

theorem mem_sortedStrings {s : String} {ss : List String} : s ∈ sortedStrings ss ↔ s ∈ ss := by
  rw [sortedStrings, mem_eraseReps, List.mem_mergeSort]

theorem pairwise_sortedStrings (ss : List String) : (sortedStrings ss).Pairwise (· < ·) := by
  have htrans : ∀ a b c : String, stringLe a b = true → stringLe b c = true → stringLe a c = true := by
    intro a b c h₁ h₂
    simp only [stringLe, decide_eq_true_eq] at *
    exact String.le_trans h₁ h₂
  have htotal : ∀ a b : String, (stringLe a b || stringLe b a) = true := by
    intro a b
    simp only [stringLe, Bool.or_eq_true, decide_eq_true_eq]
    exact String.le_total a b
  have hsorted := List.pairwise_mergeSort htrans htotal ss
  exact pairwise_eraseReps (hsorted.imp of_decide_eq_true)

theorem length_sortedStrings (ss : List String) : (sortedStrings ss).length = ss.toFinset.card := by
  have hnodup : (sortedStrings ss).Nodup := by
    refine (pairwise_sortedStrings ss).imp ?_
    rintro a b hlt rfl
    exact String.lt_irrefl a hlt
  have hset : (sortedStrings ss).toFinset = ss.toFinset := by
    ext s
    rw [List.mem_toFinset, List.mem_toFinset, mem_sortedStrings]
  rw [← hset, List.toFinset_card_of_nodup hnodup]

/-! ### Places -/

/-- The place of a string in an increasing table, if the search finds it there. -/
def placeOf? (strings : Array String) (s : String) : Option Nat :=
  let i := partitionPoint (fun i => decide (strings.getD i "" < s)) 0 strings.size
  if strings[i]? = some s then some i else none

theorem placeOf_eq_getD (strings : Array String) (s : String) :
    placeOf strings s = (placeOf? strings s).getD 0 := by
  simp only [placeOf, placeOf?]
  split <;> rfl

/-- **The search finds every string of an increasing table.** -/
theorem placeOf?_eq_some {strings : List String} (hsorted : strings.Pairwise (· < ·)) {s : String}
    {k : Nat} (hthere : strings[k]? = some s) : placeOf? strings.toArray s = some k := by
  obtain ⟨hk, hget⟩ := List.getElem?_eq_some_iff.mp hthere
  have hturn : ∀ i, 0 ≤ i → i < strings.length →
      (decide (strings.toArray.getD i "" < s) = true ↔ i < k) := by
    intro i _ hi
    have hentry : strings.toArray.getD i "" = strings[i] := by simp [hi]
    rw [decide_eq_true_iff, hentry, ← hget]
    constructor
    · intro hlt
      by_contra hge
      rcases Nat.lt_or_eq_of_le (Nat.le_of_not_lt hge) with hki | rfl
      · have hgt := List.pairwise_iff_getElem.mp hsorted k i hk hi hki
        exact String.lt_irrefl _ (String.lt_trans hlt hgt)
      · exact String.lt_irrefl _ hlt
    · exact List.pairwise_iff_getElem.mp hsorted i k hi hk
  have hfound := partitionPoint_eq (Nat.zero_le k) hk.le hturn
  simp only [placeOf?, List.size_toArray, hfound, List.getElem?_toArray, hthere, if_true]

theorem getElem?_placeOf {strings : List String} (hsorted : strings.Pairwise (· < ·)) {s : String}
    (hs : s ∈ strings) : strings[placeOf strings.toArray s]? = some s := by
  obtain ⟨k, hthere⟩ := List.mem_iff_getElem?.mp hs
  rw [placeOf_eq_getD, placeOf?_eq_some hsorted hthere]
  exact hthere

/-- The place of a string as it is written. -/
theorem getElem?_toNat_placeOf {strings : List String} (hsorted : strings.Pairwise (· < ·))
    (hsize : strings.length ≤ 2 ^ 32) {s : String} (hs : s ∈ strings) :
    strings[(UInt32.ofNat (placeOf strings.toArray s)).toNat]? = some s := by
  have hplace := getElem?_placeOf hsorted hs
  have hlt : placeOf strings.toArray s < strings.length := (List.getElem?_eq_some_iff.mp hplace).1
  rw [UInt32.toNat_ofNat_of_lt' (by unfold UInt32.size; omega)]
  exact hplace

/-- The table of records holds the keys and the values of their tags. -/
theorem mem_stringsOfRecords {rs : List Record} {r : Record} (hr : r ∈ rs) {t : Tag}
    (ht : t ∈ r.tags.toList) : t.1 ∈ stringsOfRecords rs ∧ t.2 ∈ stringsOfRecords rs := by
  simp only [stringsOfRecords, List.mem_flatMap]
  exact ⟨⟨r, hr, t, ht, by simp⟩, ⟨r, hr, t, ht, by simp⟩⟩

end DimensionalMetrics
