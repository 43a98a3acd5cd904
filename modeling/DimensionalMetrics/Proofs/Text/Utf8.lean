import DimensionalMetrics.Id

/-!
# The order of UTF-8 bytes

Texts that are kept in UTF-8 are compared byte by byte, and here they are compared character by
character.  Both orders are the same: of two characters the later one has the greater byte at the
first place where their encodings differ, and no encoding is the start of another one.
-/

namespace DimensionalMetrics

/-- The bytes of a text. -/
def utf8 (s : String) : List UInt8 := s.toList.flatMap String.utf8EncodeChar

/-- Both sequences have bytes up to a place at which they differ, and the second one is greater
there. -/
def FirstGreater (as bs : List UInt8) : Prop :=
  ∃ (common : List UInt8) (a b : UInt8) (as' bs' : List UInt8),
    as = common ++ a :: as' ∧ bs = common ++ b :: bs' ∧ a < b

namespace FirstGreater

variable {as bs : List UInt8}

/-- It does not matter what follows. -/
theorem lt_append (h : FirstGreater as bs) (as' bs' : List UInt8) : as ++ as' < bs ++ bs' := by
  obtain ⟨common, a, b, as, bs, rfl, rfl, hlt⟩ := h
  induction common with
  | nil => exact List.Lex.rel hlt
  | cons c common ih => exact List.Lex.cons ih

theorem of_lt {x y : Nat} (h : x < y) (hy : y < 256) (as bs : List UInt8) :
    FirstGreater (UInt8.ofNat x :: as) (UInt8.ofNat y :: bs) := by
  refine ⟨[], _, _, as, bs, rfl, rfl, ?_⟩
  rw [UInt8.lt_iff_toNat_lt, UInt8.toNat_ofNat', UInt8.toNat_ofNat', Nat.mod_eq_of_lt hy,
    Nat.mod_eq_of_lt (Nat.lt_trans h hy)]
  exact h

theorem of_le {x y : Nat} (hle : x ≤ y) (hy : y < 256) (h : x = y → FirstGreater as bs) :
    FirstGreater (UInt8.ofNat x :: as) (UInt8.ofNat y :: bs) := by
  rcases Nat.lt_or_eq_of_le hle with hlt | rfl
  · exact of_lt hlt hy as bs
  · obtain ⟨common, a, b, as', bs', rfl, rfl, hlt⟩ := h rfl
    exact ⟨UInt8.ofNat x :: common, a, b, as', bs', rfl, rfl, hlt⟩

end FirstGreater

/-- Encodings of one length are the digits of the characters to base sixty-four, and a longer
encoding has the greater first byte. -/
theorem firstGreater_utf8EncodeChar {c d : Char} (h : c < d) :
    FirstGreater (String.utf8EncodeChar c) (String.utf8EncodeChar d) := by
  obtain ⟨v, hv⟩ : ∃ v, v = c.val.toNat := ⟨_, rfl⟩
  obtain ⟨w, hw⟩ : ∃ w, w = d.val.toNat := ⟨_, rfl⟩
  have hlt : v < w := by
    rw [hv, hw]
    exact h
  have hmax : w < 0x110000 := by
    have hvalid : d.val.toNat.isValidChar := d.valid
    rw [← hw] at hvalid
    rcases hvalid with hsmall | hlarge
    · omega
    · exact hlarge.2
  simp only [String.utf8EncodeChar, ← hv, ← hw]
  by_cases hv₁ : v ≤ 0x7f
  · rw [if_pos hv₁]
    split
    · exact .of_lt hlt (by omega) _ _
    split
    · exact .of_lt (by omega) (by omega) _ _
    split
    · exact .of_lt (by omega) (by omega) _ _
    · exact .of_lt (by omega) (by omega) _ _
  rw [if_neg hv₁, if_neg (show ¬ w ≤ 0x7f by omega)]
  by_cases hv₂ : v ≤ 0x7ff
  · rw [if_pos hv₂]
    split
    · refine .of_le (by omega) (by omega) fun h₁ => ?_
      exact .of_lt (by omega) (by omega) _ _
    split
    · exact .of_lt (by omega) (by omega) _ _
    · exact .of_lt (by omega) (by omega) _ _
  rw [if_neg hv₂, if_neg (show ¬ w ≤ 0x7ff by omega)]
  by_cases hv₃ : v ≤ 0xffff
  · rw [if_pos hv₃]
    split
    · refine .of_le (by omega) (by omega) fun h₁ => ?_
      refine .of_le (by omega) (by omega) fun h₂ => ?_
      exact .of_lt (by omega) (by omega) _ _
    · exact .of_lt (by omega) (by omega) _ _
  rw [if_neg hv₃, if_neg (show ¬ w ≤ 0xffff by omega)]
  refine .of_le (by omega) (by omega) fun h₁ => ?_
  refine .of_le (by omega) (by omega) fun h₂ => ?_
  refine .of_le (by omega) (by omega) fun h₃ => ?_
  exact .of_lt (by omega) (by omega) _ _

theorem utf8EncodeChar_ne_nil (c : Char) : String.utf8EncodeChar c ≠ [] := by
  simp only [String.utf8EncodeChar]
  repeat' split
  all_goals exact List.cons_ne_nil _ _

theorem flatMap_utf8EncodeChar_lt {cs ds : List Char} (h : cs < ds) :
    cs.flatMap String.utf8EncodeChar < ds.flatMap String.utf8EncodeChar := by
  induction h with
  | @nil d ds =>
    obtain ⟨b, bs, hd⟩ := List.exists_cons_of_ne_nil (utf8EncodeChar_ne_nil d)
    rw [List.flatMap_nil, List.flatMap_cons, hd]
    exact List.Lex.nil
  | @rel c cs d ds hlt =>
    rw [List.flatMap_cons, List.flatMap_cons]
    exact (firstGreater_utf8EncodeChar hlt).lt_append _ _
  | @cons c cs ds hlt ih =>
    rw [List.flatMap_cons, List.flatMap_cons]
    exact List.append_left_lt ih

/-- **The order of texts is the order of their bytes.** -/
theorem utf8_lt_utf8_iff {a b : String} : utf8 a < utf8 b ↔ a < b := by
  constructor
  · intro h
    by_cases hlt : a < b
    · exact hlt
    · by_cases hgt : b < a
      · exact absurd (flatMap_utf8EncodeChar_lt (String.lt_iff.mp hgt)) (List.lt_asymm h)
      · rw [string_eq_of_not_lt hlt hgt] at h
        exact absurd h (List.lt_irrefl _)
  · intro h
    exact flatMap_utf8EncodeChar_lt (String.lt_iff.mp h)

end DimensionalMetrics
