import DimensionalMetrics.Proofs.Json.Numerals

/-!
# JSON text is read back

The reader undoes the writer on every value whose numbers are finite: after the text of a value it
stands at what follows, with that value in hand.  Strings may hold any characters; each one is escaped
in a way that no other one is.
-/

namespace DimensionalMetrics.Json

open Scan

/-! ### Strings -/

theorem escape_shortEscape {c e : Char} (h : shortEscape? c = some e) (rest : List Char) :
    escape (e :: rest) = .ok (c, rest) := by
  unfold shortEscape? at h
  repeat' split at h
  all_goals first
    | (cases h; subst_vars; rfl)
    | cases h

theorem hexQuad_hexPadded {n : Nat} (hn : n < 0x20) (rest : List Char) :
    hexQuad (hexPadded 4 n ++ rest) = .ok (n, rest) := by
  have hquad : ∀ k < 0x20, (hexPadded 4 k).length = 4 ∧
      (hexPadded 4 k).foldr (fun c n => c.utf8Size + n) 0 = 4 ∧
      hexNumber? (hexPadded 4 k) = some k := by decide
  obtain ⟨hlength, hbytes, hvalue⟩ := hquad n hn
  have htake : (hexPadded 4 n ++ rest).take 4 = hexPadded 4 n := List.take_left' hlength
  have hdrop : (hexPadded 4 n ++ rest).drop 4 = rest := List.drop_left' hlength
  have hlong : ¬ (hexPadded 4 n ++ rest).length < 4 := by
    rw [List.length_append]
    omega
  rw [hexQuad, htake, hdrop, hbytes, hvalue, if_neg (by decide), if_neg hlong]

/-- No character is half of a surrogate pair. -/
theorem not_surrogate (c : Char) :
    isLowSurrogate c.toNat = false ∧ isHighSurrogate c.toNat = false := by
  have hvalid : c.toNat < 0xd800 ∨ 0xdfff < c.toNat ∧ c.toNat < 0x110000 := c.valid
  simp only [isLowSurrogate, isHighSurrogate, Bool.and_eq_false_iff, decide_eq_false_iff_not]
  omega

theorem escape_hexPadded {c : Char} (h : c.toNat < 0x20) (rest : List Char) :
    escape ('u' :: (hexPadded 4 c.toNat ++ rest)) = .ok (c, rest) := by
  obtain ⟨hlow, hhigh⟩ := not_surrogate c
  simp [escape, hexQuad_hexPadded h, hlow, hhigh]

theorem string_backslash {c : Char} {cs rest : List Char} (h : escape cs = .ok (c, rest)) :
    string ('\\' :: cs) = (string rest).map fun (ds, after) => (c :: ds, after) := by
  rw [string, if_neg (by decide), if_pos rfl]
  split
  · rename_i e he
    rw [h] at he
    cases he
  · rename_i d rest' hd
    rw [h] at hd
    cases hd
    rfl

theorem string_escapeChar (c : Char) (rest : List Char) :
    string (escapeChar c ++ rest) = (string rest).map fun (ds, after) => (c :: ds, after) := by
  unfold escapeChar
  split
  · rename_i e he
    exact string_backslash (escape_shortEscape he rest)
  · rename_i hnone
    split
    · rename_i hcontrol
      exact string_backslash (escape_hexPadded hcontrol rest)
    · rename_i hprintable
      have hquote : c ≠ '"' := by
        rintro rfl
        exact absurd hnone (by decide)
      have hbackslash : c ≠ '\\' := by
        rintro rfl
        exact absurd hnone (by decide)
      rw [List.singleton_append, string, if_neg hquote, if_neg hbackslash, if_neg hprintable]

/-- **Every string is read back**, whatever its characters are. -/
theorem string_chars (cs rest : List Char) :
    string (cs.flatMap escapeChar ++ '"' :: rest) = .ok (cs, rest) := by
  induction cs with
  | nil =>
    rw [List.flatMap_nil, List.nil_append, string, if_pos rfl]
  | cons c cs ih =>
    rw [List.flatMap_cons, List.append_assoc, string_escapeChar, ih]
    rfl

/-! ### Values -/

mutual

/-- Every number of a value is finite. -/
def AllFinite : Json → Prop
  | null | bool _ | nat _ | str _ => True
  | real x => x.isFinite = true
  | arr items => AllFiniteItems items
  | obj members => AllFiniteMembers members

def AllFiniteItems : List Json → Prop
  | [] => True
  | item :: rest => AllFinite item ∧ AllFiniteItems rest

def AllFiniteMembers : List (String × Json) → Prop
  | [] => True
  | (_, value) :: rest => AllFinite value ∧ AllFiniteMembers rest

end

theorem allFiniteItems_iff {items : List Json} :
    AllFiniteItems items ↔ ∀ item ∈ items, item.AllFinite := by
  induction items with
  | nil => simp [AllFiniteItems]
  | cons item rest ih => simp [AllFiniteItems, ih]

theorem skipSpace_cons {c : Char} (h : isSpace c = false) (rest : List Char) :
    skipSpace (c :: rest) = c :: rest := by
  simp [skipSpace, h]

theorem Scan.endsNumeral_nil : EndsNumeral [] := by
  simp [EndsNumeral]

theorem Scan.endsNumeral_cons {c : Char} (h : c.isDigit = false ∧ c ≠ '.' ∧ c ≠ 'e' ∧ c ≠ 'E')
    (rest : List Char) : EndsNumeral (c :: rest) := by
  rintro _ ⟨⟩
  exact h

/-- A numeral starts with a minus sign or a digit. -/
theorem Scan.Numeral.WellFormed.exists_cons {n : Numeral} (h : n.WellFormed) :
    ∃ c rest, n.chars = c :: rest ∧ (c = '-' ∨ c.isDigit = true) := by
  cases hneg : n.negative with
  | true => exact ⟨'-', n.chars.tail, by simp [Numeral.chars, hneg], .inl rfl⟩
  | false =>
    obtain ⟨hne, hall⟩ := h.whole
    cases hw : n.whole with
    | nil => exact absurd hw hne
    | cons d ds =>
      refine ⟨d, n.chars.tail, by simp [Numeral.chars, hneg, hw], .inr (hall d ?_)⟩
      rw [hw]
      exact List.mem_cons_self

/-- No blank and no closing bracket. -/
def StartsValue (c : Char) : Prop := isSpace c = false ∧ c ≠ ']' ∧ c ≠ '\x7d'

theorem startsValue_of_numeral {c : Char} (h : c = '-' ∨ c.isDigit = true) : StartsValue c := by
  rcases h with rfl | h
  · exact ⟨by decide, by decide, by decide⟩
  · refine ⟨?_, ?_, ?_⟩
    · simp only [isSpace, Bool.or_eq_false_iff, decide_eq_false_iff_not]
      refine ⟨⟨⟨?_, ?_⟩, ?_⟩, ?_⟩ <;> (rintro rfl; exact absurd h (by decide))
    · rintro rfl
      exact absurd h (by decide)
    · rintro rfl
      exact absurd h (by decide)

theorem exists_cons_chars {j : Json} (h : j.AllFinite) :
    ∃ c rest, j.chars = c :: rest ∧ StartsValue c := by
  cases j with
  | null => exact ⟨_, _, rfl, by decide, by decide, by decide⟩
  | bool value => cases value <;> exact ⟨_, _, rfl, by decide, by decide, by decide⟩
  | nat n =>
    obtain ⟨c, rest, hc, hfirst⟩ := (Numeral.wellFormed_natural n).exists_cons
    rw [Numeral.chars_natural] at hc
    exact ⟨c, rest, hc, startsValue_of_numeral hfirst⟩
  | real x =>
    have hx : x.isFinite = true := h
    obtain ⟨n, hn, -, hchars⟩ := exists_numeral hx
    obtain ⟨c, rest, hc, hfirst⟩ := hn.exists_cons
    exact ⟨c, rest, by rw [chars, realChars, if_pos hx, ← hchars, hc],
      startsValue_of_numeral hfirst⟩
  | str s => exact ⟨_, _, rfl, by decide, by decide, by decide⟩
  | arr items => exact ⟨_, _, rfl, by decide, by decide, by decide⟩
  | obj members => exact ⟨_, _, rfl, by decide, by decide, by decide⟩

theorem readValue_numeral {n : Numeral} (h : n.WellFormed) {rest : List Char}
    (hrest : EndsNumeral rest) (fuel : Nat) :
    readValue (fuel + 1) (n.chars ++ rest) = some (n.toJson, rest) := by
  have hscan := numeral_chars h hrest
  obtain ⟨c, tail, hc, hfirst⟩ := h.exists_cons
  have hspace := (startsValue_of_numeral hfirst).1
  have hother : c ≠ '"' ∧ c ≠ '[' ∧ c ≠ '\x7b' := by
    refine ⟨?_, ?_, ?_⟩ <;> (rintro rfl; revert hfirst; decide)
  rw [hc, List.cons_append] at hscan ⊢
  rw [readValue.eq_def, skipSpace_cons hspace]
  dsimp only
  rw [if_neg hother.1, if_neg hother.2.1, if_neg hother.2.2, if_pos hfirst, hscan]

theorem readValue_arr {fuel : Nat} {c : Char} {tail rest : List Char} {items : List Json}
    (hc : StartsValue c) (h : readItems fuel (c :: tail) = some (items, rest)) :
    readValue (fuel + 1) ('[' :: c :: tail) = some (.arr items, rest) := by
  obtain ⟨hspace, hbracket, -⟩ := hc
  rw [readValue.eq_def, skipSpace_cons (by decide)]
  simp [skipSpace_cons hspace, hbracket, h]

theorem readItems_last {fuel : Nat} {cs rest : List Char} {item : Json}
    (h : readValue fuel cs = some (item, ']' :: rest)) :
    readItems (fuel + 1) cs = some ([item], rest) := by
  rw [readItems, h]
  simp [skipSpace, isSpace]

theorem readItems_more {fuel : Nat} {cs cs' rest : List Char} {item : Json} {items : List Json}
    (h : readValue fuel cs = some (item, ',' :: cs'))
    (h' : readItems fuel cs' = some (items, rest)) :
    readItems (fuel + 1) cs = some (item :: items, rest) := by
  rw [readItems, h]
  simp [skipSpace, isSpace, h']

theorem readValue_obj {fuel : Nat} {tail rest : List Char} {members : List (String × Json)}
    (h : readMembers fuel ('"' :: tail) = some (members, rest)) :
    readValue (fuel + 1) ('\x7b' :: '"' :: tail) = some (.obj members, rest) := by
  rw [readValue.eq_def, skipSpace_cons (by decide)]
  simp [skipSpace_cons, isSpace, h]

theorem readMembers_last {fuel : Nat} {cs cs' rest key : List Char} {value : Json}
    (hkey : string cs = .ok (key, ':' :: cs'))
    (h : readValue fuel cs' = some (value, '\x7d' :: rest)) :
    readMembers (fuel + 1) ('"' :: cs) = some ([(String.ofList key, value)], rest) := by
  rw [readMembers.eq_def, skipSpace_cons (by decide)]
  simp [hkey, skipSpace_cons, isSpace, h]

theorem readMembers_more {fuel : Nat} {cs cs' cs'' rest key : List Char} {value : Json}
    {members : List (String × Json)} (hkey : string cs = .ok (key, ':' :: cs'))
    (h : readValue fuel cs' = some (value, ',' :: cs''))
    (h' : readMembers fuel cs'' = some (members, rest)) :
    readMembers (fuel + 1) ('"' :: cs) = some ((String.ofList key, value) :: members, rest) := by
  rw [readMembers.eq_def, skipSpace_cons (by decide)]
  simp [hkey, skipSpace_cons, isSpace, h, h']

theorem itemsChars_cons_cons (item next : Json) (items : List Json) :
    itemsChars (item :: next :: items) = item.chars ++ ',' :: itemsChars (next :: items) := by
  simp [itemsChars]

theorem membersChars_cons_cons (key : String) (value : Json) (next : String × Json)
    (members : List (String × Json)) :
    membersChars ((key, value) :: next :: members) =
      strChars key.toList ++ ':' :: (value.chars ++ ',' :: membersChars (next :: members)) := by
  simp [membersChars]

theorem exists_append_itemsChars (item : Json) (items : List Json) :
    ∃ tail, itemsChars (item :: items) = item.chars ++ tail := by
  cases items with
  | nil => exact ⟨[], by simp [itemsChars]⟩
  | cons next items => exact ⟨_, itemsChars_cons_cons item next items⟩

mutual

/-- **The reader undoes the writer.** -/
theorem readValue_chars (j : Json) (fuel : Nat) (rest : List Char) (h : j.AllFinite)
    (hfuel : j.chars.length ≤ fuel) (hrest : EndsNumeral rest) :
    readValue fuel (j.chars ++ rest) = some (j, rest) := by
  obtain ⟨fuel, rfl⟩ : ∃ k, fuel = k + 1 := by
    obtain ⟨c, tail, hc, -⟩ := exists_cons_chars h
    rw [hc, List.length_cons] at hfuel
    exact ⟨fuel - 1, by omega⟩
  cases j with
  | null => simp [chars, readValue, readWord, word, skipSpace, isSpace]
  | bool value =>
    cases value <;> simp [chars, readValue, readWord, word, skipSpace, isSpace]
  | nat n =>
    rw [chars, ← Numeral.chars_natural, readValue_numeral (Numeral.wellFormed_natural n) hrest,
      Numeral.toJson_natural]
  | real x =>
    have hx : x.isFinite = true := h
    obtain ⟨n, hn, hvalue, hchars⟩ := exists_numeral hx
    rw [chars, realChars, if_pos hx, ← hchars, readValue_numeral hn hrest, hvalue]
  | str s =>
    rw [chars, strChars, List.cons_append, readValue.eq_def, skipSpace_cons (by decide)]
    simp [string_chars]
  | arr items =>
    rw [chars, List.cons_append, List.append_assoc, List.singleton_append]
    cases items with
    | nil =>
      rw [readValue.eq_def, skipSpace_cons (by decide)]
      simp [itemsChars, skipSpace, isSpace]
    | cons item items =>
      have hread := readItems_chars (item :: items) (by simp) fuel rest h (by
        simp only [chars, List.length_cons, List.length_append] at hfuel
        omega)
      obtain ⟨tail, htail⟩ := exists_append_itemsChars item items
      have hitem : item.AllFinite := h.1
      obtain ⟨c, tail', hc, hfirst⟩ := exists_cons_chars hitem
      rw [htail, hc, List.cons_append, List.cons_append] at hread ⊢
      exact readValue_arr hfirst hread
  | obj members =>
    rw [chars, List.cons_append, List.append_assoc, List.singleton_append]
    cases members with
    | nil =>
      rw [readValue.eq_def, skipSpace_cons (by decide)]
      simp [membersChars, skipSpace, isSpace]
    | cons member members =>
      have hread := readMembers_chars (member :: members) (by simp) fuel rest h (by
        simp only [chars, List.length_cons, List.length_append] at hfuel
        omega)
      obtain ⟨tail, htail⟩ : ∃ tail, membersChars (member :: members) = '"' :: tail := by
        obtain ⟨key, value⟩ := member
        cases members with
        | nil => exact ⟨_, by rw [membersChars]; rfl⟩
        | cons next members => exact ⟨_, by rw [membersChars_cons_cons]; rfl⟩
      rw [htail, List.cons_append] at hread ⊢
      exact readValue_obj hread

theorem readItems_chars (items : List Json) (hne : items ≠ []) (fuel : Nat) (rest : List Char)
    (h : AllFiniteItems items) (hfuel : (itemsChars items).length < fuel) :
    readItems fuel (itemsChars items ++ ']' :: rest) = some (items, rest) := by
  obtain ⟨fuel, rfl⟩ : ∃ k, fuel = k + 1 := ⟨fuel - 1, by omega⟩
  match items with
  | [] => exact absurd rfl hne
  | [item] =>
    rw [itemsChars] at hfuel ⊢
    apply readItems_last
    exact readValue_chars item fuel _ h.1 (by omega) (endsNumeral_cons (by decide) _)
  | item :: next :: items =>
    rw [itemsChars_cons_cons, List.length_append, List.length_cons] at hfuel
    rw [itemsChars_cons_cons, List.append_assoc, List.cons_append]
    apply readItems_more
    · exact readValue_chars item fuel _ h.1 (by omega) (endsNumeral_cons (by decide) _)
    · exact readItems_chars (next :: items) (by simp) fuel rest h.2 (by omega)

theorem readMembers_chars (members : List (String × Json)) (hne : members ≠ []) (fuel : Nat)
    (rest : List Char) (h : AllFiniteMembers members)
    (hfuel : (membersChars members).length < fuel) :
    readMembers fuel (membersChars members ++ '\x7d' :: rest) = some (members, rest) := by
  obtain ⟨fuel, rfl⟩ : ∃ k, fuel = k + 1 := ⟨fuel - 1, by omega⟩
  match members with
  | [] => exact absurd rfl hne
  | [(key, value)] =>
    rw [membersChars, strChars] at hfuel ⊢
    simp only [List.length_append, List.length_cons] at hfuel
    simp only [List.cons_append, List.append_assoc, List.nil_append]
    have hvalue := readValue_chars value fuel ('\x7d' :: rest) h.1 (by omega)
      (endsNumeral_cons (by decide) _)
    have hmember := readMembers_last (string_chars key.toList _) hvalue
    rwa [String.ofList_toList] at hmember
  | (key, value) :: next :: members =>
    rw [membersChars_cons_cons, strChars] at hfuel ⊢
    simp only [List.length_append, List.length_cons] at hfuel
    simp only [List.cons_append, List.append_assoc, List.nil_append]
    have hvalue := readValue_chars value fuel (',' :: (membersChars (next :: members) ++ '\x7d' :: rest))
      h.1 (by omega) (endsNumeral_cons (by decide) _)
    have hmembers := readMembers_chars (next :: members) (by simp) fuel rest h.2 (by omega)
    have hmember := readMembers_more (string_chars key.toList _) hvalue hmembers
    rwa [String.ofList_toList] at hmember

end

/-- **A text that was written is read as what was written.** -/
theorem read?_text {j : Json} (h : j.AllFinite) : read? j.text = some j := by
  have hread := readValue_chars j (j.text.length + 1) [] h (by simp [text]) endsNumeral_nil
  rw [List.append_nil] at hread
  have htext : j.text.toList = j.chars := by rw [text, String.toList_ofList]
  rw [read?, htext, hread]
  rfl

end DimensionalMetrics.Json
