import DimensionalMetrics.Json.Skip

/-!
# What a reading leaves

Every piece of JSON is read off the front of a text, so what it leaves is an end of that text.
-/

namespace DimensionalMetrics.Json.Scan

theorem exists_of_map_eq_ok {ε α β : Type} {x : Except ε α} {f : α → β} {b : β}
    (h : x.map f = .ok b) : ∃ a, x = .ok a ∧ f a = b := by
  cases x with
  | error e => cases h
  | ok a => exact ⟨a, rfl, Except.ok.inj h⟩

theorem skipSpace_suffix (cs : List Char) : skipSpace cs <:+ cs := List.dropWhile_suffix isSpace

theorem suffix_of_skipSpace_cons {c : Char} {cs rest : List Char} (h : skipSpace cs = c :: rest) :
    rest <:+ cs :=
  (List.suffix_cons c rest).trans (h ▸ skipSpace_suffix cs)

theorem suffix_of_word {ws cs rest : List Char} (h : word ws cs = .ok rest) : rest <:+ cs := by
  induction ws generalizing cs with
  | nil =>
    obtain rfl := Except.ok.inj h
    exact List.suffix_refl _
  | cons w ws ih =>
    cases cs with
    | nil => cases h
    | cons c cs =>
      rw [word] at h
      split at h
      · exact (ih h).trans (List.suffix_cons c cs)
      · cases h

/-! ### Strings -/

theorem suffix_of_hexQuad {cs rest : List Char} {n : Nat} (h : hexQuad cs = .ok (n, rest)) :
    rest <:+ cs := by
  unfold hexQuad at h
  split at h
  · cases h
  split at h
  · cases h
  split at h
  · obtain ⟨rfl, rfl⟩ := Prod.mk.inj (Except.ok.inj h)
    exact List.drop_suffix 4 cs
  · cases h

theorem suffix_of_lowHalf {high : Nat} {cs rest : List Char} {c : Char}
    (h : lowHalf high cs = .ok (c, rest)) : rest <:+ cs := by
  unfold lowHalf at h
  split at h
  · cases h
  · cases h
  · rename_i cs
    split at h
    · cases h
    · rename_i low rest' hquad
      split at h
      · obtain ⟨rfl, rfl⟩ := Prod.mk.inj (Except.ok.inj h)
        exact (suffix_of_hexQuad hquad).trans (List.suffix_append ['\\', 'u'] cs)
      · cases h
  · cases h

theorem suffix_of_escape {cs rest : List Char} {c : Char} (h : escape cs = .ok (c, rest)) :
    rest <:+ cs := by
  unfold escape at h
  split at h
  · cases h
  · rename_i cs
    split at h
    · cases h
    · rename_i n rest' hquad
      have hquad := (suffix_of_hexQuad hquad).trans (List.suffix_cons 'u' cs)
      split at h
      · cases h
      split at h
      · exact (suffix_of_lowHalf h).trans hquad
      · obtain ⟨rfl, rfl⟩ := Prod.mk.inj (Except.ok.inj h)
        exact hquad
  · rename_i c cs _
    split at h
    · obtain ⟨rfl, rfl⟩ := Prod.mk.inj (Except.ok.inj h)
      exact List.suffix_cons c cs
    · cases h

theorem suffix_of_skipEscape {cs rest : List Char} (h : skipEscape cs = .ok rest) :
    rest <:+ cs := by
  unfold skipEscape at h
  split at h
  · cases h
  · rename_i cs
    obtain ⟨⟨n, rest'⟩, hquad, rfl⟩ := exists_of_map_eq_ok h
    exact (suffix_of_hexQuad hquad).trans (List.suffix_cons 'u' cs)
  · rename_i c cs _
    split at h
    · obtain rfl := Except.ok.inj h
      exact List.suffix_cons c cs
    · cases h

theorem suffix_of_string {cs ds rest : List Char} (h : string cs = .ok (ds, rest)) :
    rest <:+ cs := by
  fun_induction string cs generalizing ds with
  | case1 => cases h
  | case2 rest' =>
    obtain ⟨rfl, rfl⟩ := Prod.mk.inj (Except.ok.inj h)
    exact List.suffix_cons _ _
  | case3 => cases h
  | case4 cs d rest' hescape _ _ ih =>
    obtain ⟨⟨ds', after⟩, hstring, heq⟩ := exists_of_map_eq_ok h
    obtain ⟨rfl, rfl⟩ := Prod.mk.inj heq
    exact ((ih hstring).trans (suffix_of_escape hescape)).trans (List.suffix_cons _ _)
  | case5 => cases h
  | case6 c cs _ _ _ ih =>
    obtain ⟨⟨ds', after⟩, hstring, heq⟩ := exists_of_map_eq_ok h
    obtain ⟨rfl, rfl⟩ := Prod.mk.inj heq
    exact (ih hstring).trans (List.suffix_cons _ _)

theorem suffix_of_skipString {cs rest : List Char} (h : skipString cs = .ok rest) :
    rest <:+ cs := by
  fun_induction skipString cs with
  | case1 => cases h
  | case2 rest' =>
    obtain rfl := Except.ok.inj h
    exact List.suffix_cons _ _
  | case3 => cases h
  | case4 cs rest' hescape _ _ ih =>
    exact ((ih h).trans (suffix_of_skipEscape hescape)).trans (List.suffix_cons _ _)
  | case5 => cases h
  | case6 c cs _ _ _ ih => exact (ih h).trans (List.suffix_cons _ _)

/-! ### Numerals -/

theorem suffix_of_digits {cs ds rest : List Char} (h : digits cs = .ok (ds, rest)) :
    rest <:+ cs := by
  unfold digits at h
  split at h
  · cases h
  split at h
  · obtain ⟨rfl, rfl⟩ := Prod.mk.inj (Except.ok.inj h)
    exact List.dropWhile_suffix _
  · cases h

theorem suffix_of_wholePart {cs ds rest : List Char} (h : wholePart cs = .ok (ds, rest)) :
    rest <:+ cs := by
  unfold wholePart at h
  split at h
  · split at h
    · cases h
    · obtain ⟨rfl, rfl⟩ := Prod.mk.inj (Except.ok.inj h)
      exact List.drop_suffix 1 _
  · exact suffix_of_digits h

theorem suffix_of_fractionPart {cs rest : List Char} {ds : Option (List Char)}
    (h : fractionPart cs = .ok (ds, rest)) : rest <:+ cs := by
  unfold fractionPart at h
  split at h
  · rename_i cs
    obtain ⟨⟨ds', after⟩, hdigits, heq⟩ := exists_of_map_eq_ok h
    obtain ⟨rfl, rfl⟩ := Prod.mk.inj heq
    exact (suffix_of_digits hdigits).trans (List.suffix_cons '.' cs)
  · obtain ⟨rfl, rfl⟩ := Prod.mk.inj (Except.ok.inj h)
    exact List.suffix_refl _

theorem exponentSign_suffix (cs : List Char) : (exponentSign cs).2 <:+ cs := by
  unfold exponentSign
  split
  · exact List.suffix_cons _ _
  · exact List.suffix_cons _ _
  · exact List.suffix_refl _

theorem suffix_of_exponentPart {cs rest : List Char} {e : Option (Bool × List Char)}
    (h : exponentPart cs = .ok (e, rest)) : rest <:+ cs := by
  unfold exponentPart at h
  split at h
  · rename_i c cs
    split at h
    · obtain ⟨⟨ds, after⟩, hdigits, heq⟩ := exists_of_map_eq_ok h
      obtain ⟨rfl, rfl⟩ := Prod.mk.inj heq
      exact ((suffix_of_digits hdigits).trans (exponentSign_suffix cs)).trans
        (List.suffix_cons c cs)
    · obtain ⟨rfl, rfl⟩ := Prod.mk.inj (Except.ok.inj h)
      exact List.suffix_refl _
  · obtain ⟨rfl, rfl⟩ := Prod.mk.inj (Except.ok.inj h)
    exact List.suffix_refl _

theorem suffix_of_unsignedNumeral {negative : Bool} {cs rest : List Char} {n : Numeral}
    (h : unsignedNumeral negative cs = .ok (n, rest)) : rest <:+ cs := by
  unfold unsignedNumeral at h
  split at h
  · cases h
  · rename_i whole cs₁ hwhole
    split at h
    · cases h
    · rename_i fraction cs₂ hfraction
      split at h
      · cases h
      · rename_i exponent cs₃ hexponent
        obtain ⟨rfl, rfl⟩ := Prod.mk.inj (Except.ok.inj h)
        exact ((suffix_of_exponentPart hexponent).trans (suffix_of_fractionPart hfraction)).trans
          (suffix_of_wholePart hwhole)

theorem suffix_of_numeral {cs rest : List Char} {n : Numeral} (h : numeral cs = .ok (n, rest)) :
    rest <:+ cs := by
  unfold numeral at h
  split at h
  · exact (suffix_of_unsignedNumeral h).trans (List.suffix_cons _ _)
  · exact suffix_of_unsignedNumeral h

/-! ### Values that are passed over -/

theorem suffix_of_skipScalar {cs rest : List Char} (h : skipScalar cs = .ok rest) :
    rest <:+ cs := by
  unfold skipScalar at h
  split at h
  · cases h
  · rename_i c cs
    split at h
    · exact (suffix_of_word h).trans (List.suffix_cons c cs)
    split at h
    · exact (suffix_of_word h).trans (List.suffix_cons c cs)
    split at h
    · exact (suffix_of_word h).trans (List.suffix_cons c cs)
    split at h
    · exact (suffix_of_skipString h).trans (List.suffix_cons c cs)
    split at h
    · split at h
      · cases h
      · rename_i n rest' hnumeral
        obtain rfl := Except.ok.inj h
        exact suffix_of_numeral hnumeral
    · cases h

theorem suffix_of_skipKey {cs rest : List Char} (h : skipKey cs = .ok rest) : rest <:+ cs := by
  unfold skipKey at h
  split at h
  · cases h
  · rename_i c cs₁ hspace
    split at h
    · split at h
      · cases h
      · rename_i cs₂ hstring
        split at h
        · cases h
        · rename_i d cs₃ hspace'
          split at h
          · obtain rfl := Except.ok.inj h
            exact ((suffix_of_skipSpace_cons hspace').trans (suffix_of_skipString hstring)).trans
              (suffix_of_skipSpace_cons hspace)
          · cases h
    · cases h

theorem suffix_of_skipLabel {e : Enclosing} {cs rest : List Char} (h : skipLabel e cs = .ok rest) :
    rest <:+ cs := by
  cases e with
  | array =>
    obtain rfl := Except.ok.inj h
    exact List.suffix_refl _
  | object => exact suffix_of_skipKey h

mutual

theorem suffix_of_skipValue {outer : List Enclosing} {cs rest : List Char}
    (h : skipValue outer cs = .ok rest) : rest <:+ cs := by
  rw [skipValue] at h
  split at h
  · cases h
  · rename_i c cs₁ hspace
    have hlt := length_of_skipSpace hspace
    dsimp only at h
    split at h
    · split at h
      · cases h
      · rename_i cs₂ hscalar
        have hle : cs₂.length < cs.length := Nat.lt_of_lt_of_le (length_of_skipScalar hscalar) hlt
        exact ((suffix_of_skipRest h).trans (suffix_of_skipScalar hscalar)).trans
          (hspace ▸ skipSpace_suffix cs)
    · rename_i e _
      have hcs := suffix_of_skipSpace_cons hspace
      split at h
      · cases h
      · rename_i d cs₂ hspace'
        have hlt' := Nat.lt_trans (length_of_skipSpace hspace') hlt
        split at h
        · exact ((suffix_of_skipRest h).trans (suffix_of_skipSpace_cons hspace')).trans hcs
        · split at h
          · cases h
          · rename_i cs₃ hlabel
            have hle := Nat.lt_of_le_of_lt (length_of_skipLabel hlabel) hlt
            exact ((suffix_of_skipValue h).trans (suffix_of_skipLabel hlabel)).trans hcs
termination_by cs.length

theorem suffix_of_skipRest {outer : List Enclosing} {cs rest : List Char}
    (h : skipRest outer cs = .ok rest) : rest <:+ cs := by
  rw [skipRest.eq_def] at h
  split at h
  · obtain rfl := Except.ok.inj h
    exact List.suffix_refl _
  · rename_i e outer
    split at h
    · cases h
    · rename_i c cs₁ hspace
      have hlt := length_of_skipSpace hspace
      have hcs := suffix_of_skipSpace_cons hspace
      dsimp only at h
      split at h
      · split at h
        · cases h
        · rename_i cs₂ hlabel
          have hle := Nat.lt_of_le_of_lt (length_of_skipLabel hlabel) hlt
          exact ((suffix_of_skipValue h).trans (suffix_of_skipLabel hlabel)).trans hcs
      · split at h
        · exact (suffix_of_skipRest h).trans hcs
        · cases h
termination_by cs.length

end

theorem suffix_of_skip {cs rest : List Char} (h : skip cs = .ok rest) : rest <:+ cs :=
  suffix_of_skipValue h

end DimensionalMetrics.Json.Scan
