import DimensionalMetrics.Proofs.Json.RoundTrip

/-!
# Numbers without a text

An infinity or a NaN is written as `null`, and nothing in the text tells it from a real `null`.  So
every value can be written and every text that was written can be read, but what is read has nulls
in the place of these numbers.
-/

namespace DimensionalMetrics.Json

mutual

/-- A value with `null` in the place of every number that is not finite. -/
def withNulls : Json → Json
  | null => null
  | bool value => bool value
  | nat value => nat value
  | real x => if x.isFinite then real x else null
  | str value => str value
  | arr items => arr (itemsWithNulls items)
  | obj members => obj (membersWithNulls members)

def itemsWithNulls : List Json → List Json
  | [] => []
  | item :: rest => withNulls item :: itemsWithNulls rest

def membersWithNulls : List (String × Json) → List (String × Json)
  | [] => []
  | (key, value) :: rest => (key, withNulls value) :: membersWithNulls rest

end

theorem itemsWithNulls_eq_map (items : List Json) :
    itemsWithNulls items = items.map withNulls := by
  induction items with
  | nil => rfl
  | cons item rest ih => rw [itemsWithNulls, ih, List.map_cons]

theorem membersWithNulls_eq_map (members : List (String × Json)) :
    membersWithNulls members = members.map fun m => (m.1, m.2.withNulls) := by
  induction members with
  | nil => rfl
  | cons m rest ih => rw [membersWithNulls, ih, List.map_cons]

mutual

theorem chars_withNulls (j : Json) : j.withNulls.chars = j.chars := by
  cases j with
  | null | bool | nat | str => rfl
  | real x =>
    rw [withNulls]
    by_cases hx : x.isFinite = true
    · rw [if_pos hx]
    · rw [if_neg hx, chars, chars, realChars, if_neg hx]
  | arr items => rw [withNulls, chars, chars, itemsChars_withNulls items]
  | obj members => rw [withNulls, chars, chars, membersChars_withNulls members]

theorem itemsChars_withNulls (items : List Json) :
    itemsChars (itemsWithNulls items) = itemsChars items := by
  match items with
  | [] => rfl
  | [item] =>
    rw [itemsWithNulls, itemsWithNulls, itemsChars, itemsChars, chars_withNulls item]
  | item :: next :: rest =>
    have htail := itemsChars_withNulls (next :: rest)
    rw [itemsWithNulls] at htail
    rw [itemsWithNulls, itemsWithNulls, itemsChars_cons_cons, itemsChars_cons_cons, htail,
      chars_withNulls item]

theorem membersChars_withNulls (members : List (String × Json)) :
    membersChars (membersWithNulls members) = membersChars members := by
  match members with
  | [] => rfl
  | [(key, value)] =>
    rw [membersWithNulls, membersWithNulls, membersChars, membersChars, chars_withNulls value]
  | (key, value) :: (key', value') :: rest =>
    have htail := membersChars_withNulls ((key', value') :: rest)
    rw [membersWithNulls] at htail
    rw [membersWithNulls, membersWithNulls, membersChars_cons_cons, membersChars_cons_cons, htail,
      chars_withNulls value]

end

mutual

theorem allFinite_withNulls (j : Json) : j.withNulls.AllFinite := by
  cases j with
  | null | bool | nat | str => trivial
  | real x =>
    rw [withNulls]
    by_cases hx : x.isFinite = true
    · rw [if_pos hx]
      exact hx
    · rw [if_neg hx]
      trivial
  | arr items => exact allFiniteItems_withNulls items
  | obj members => exact allFiniteMembers_withNulls members

theorem allFiniteItems_withNulls (items : List Json) :
    AllFiniteItems (itemsWithNulls items) := by
  match items with
  | [] => trivial
  | item :: rest => exact ⟨allFinite_withNulls item, allFiniteItems_withNulls rest⟩

theorem allFiniteMembers_withNulls (members : List (String × Json)) :
    AllFiniteMembers (membersWithNulls members) := by
  match members with
  | [] => trivial
  | (key, value) :: rest => exact ⟨allFinite_withNulls value, allFiniteMembers_withNulls rest⟩

end

/-- **Every text that was written is read**, as what was written but for the nulls. -/
theorem read?_text_eq_withNulls (j : Json) : read? j.text = some j.withNulls := by
  have htext : j.text = j.withNulls.text := by rw [text, text, chars_withNulls]
  rw [htext]
  exact read?_text j.allFinite_withNulls

end DimensionalMetrics.Json
