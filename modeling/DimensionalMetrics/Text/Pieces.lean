/-!
# Cutting text at a separator

A text is cut wherever one of its characters is a separator.  Between two neighbouring separators
there is an empty piece, so a text has one piece more than it has separators.
-/

namespace DimensionalMetrics

/-- The pieces of a text between separators; there is always at least one. -/
def pieces (isSeparator : Char → Bool) : List Char → List (List Char)
  | [] => [[]]
  | c :: cs =>
    if isSeparator c then [] :: pieces isSeparator cs
    else
      match pieces isSeparator cs with
      | [] => [[c]]
      | piece :: rest => (c :: piece) :: rest

theorem pieces_ne_nil (isSeparator : Char → Bool) (cs : List Char) :
    pieces isSeparator cs ≠ [] := by
  cases cs with
  | nil => simp only [pieces, ne_eq, reduceCtorEq, not_false_eq_true]
  | cons c cs =>
    simp only [pieces]
    split
    · simp only [ne_eq, reduceCtorEq, not_false_eq_true]
    · split <;> simp only [ne_eq, reduceCtorEq, not_false_eq_true]

/-- No piece holds a separator. -/
theorem not_isSeparator_of_mem_pieces {isSeparator : Char → Bool} {cs piece : List Char}
    (h : piece ∈ pieces isSeparator cs) : ∀ c ∈ piece, isSeparator c = false := by
  induction cs generalizing piece with
  | nil =>
    simp only [pieces, List.mem_singleton] at h
    simp only [h, List.not_mem_nil, false_implies, implies_true]
  | cons c cs ih =>
    simp only [pieces] at h
    split at h
    · rcases List.mem_cons.mp h with rfl | h
      · simp only [List.not_mem_nil, false_implies, implies_true]
      · exact ih h
    · rename_i hc
      split at h
      · rename_i he
        exact absurd he (pieces_ne_nil isSeparator cs)
      · rename_i first rest he
        rcases List.mem_cons.mp h with rfl | h
        · intro d hd
          rcases List.mem_cons.mp hd with rfl | hd
          · simpa only [Bool.not_eq_true] using hc
          · exact ih (by rw [he]; exact List.mem_cons_self) d hd
        · exact ih (by rw [he]; exact List.mem_cons_of_mem _ h)

end DimensionalMetrics
