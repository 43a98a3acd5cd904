import DimensionalMetrics.Json.Skip
import DimensionalMetrics.Proofs.Json.RoundTrip

/-!
# The grammar of JSON text

What well-formed JSON text is, said without a reader: blanks, the spellings of a string, numbers and
values to any depth.  A character of a string can stand for itself, can have a short escape, or can be
named by its code units.  The readers of the parts accept all of this: a spelling is read as the string
that it spells, and a value that nobody needs is passed over to its last character.
-/

namespace DimensionalMetrics.Json

open Scan

/-! ### Blanks -/

def Blank (ws : List Char) : Prop := ∀ c ∈ ws, isSpace c = true

theorem skipSpace_append {ws : List Char} (h : Blank ws) (rest : List Char) :
    skipSpace (ws ++ rest) = skipSpace rest :=
  List.dropWhile_append_of_pos h

/-! ### Strings -/

/-- The letter of each short escape, and the character that it stands for. -/
def shortEscapes : List (Char × Char) :=
  [('"', '"'), ('\\', '\\'), ('/', '/'), ('b', '\x08'), ('f', '\x0c'), ('n', '\n'), ('r', '\r'),
    ('t', '\t')]

/-- Four hexadecimal digits, of either case, and their number. -/
def IsQuad (ds : List Char) (n : Nat) : Prop := ds.length = 4 ∧ hexNumber? ds = some n

/-- The spellings of a character inside a string. -/
inductive SpellsChar : List Char → Char → Prop
  | raw {c : Char} (hquote : c ≠ '"') (hbackslash : c ≠ '\\') (hprintable : 0x20 ≤ c.toNat) :
      SpellsChar [c] c
  | short {e c : Char} (h : (e, c) ∈ shortEscapes) : SpellsChar ['\\', e] c
  | unit {ds : List Char} {c : Char} (h : IsQuad ds c.toNat) : SpellsChar ('\\' :: 'u' :: ds) c
  | pair {ds ds' : List Char} {high low : Nat} {c : Char} (h : IsQuad ds (0xD800 + high))
      (h' : IsQuad ds' (0xDC00 + low)) (hhigh : high < 0x400) (hlow : low < 0x400)
      (hc : c.toNat = 0x10000 + high * 0x400 + low) :
      SpellsChar ('\\' :: 'u' :: ds ++ '\\' :: 'u' :: ds') c

/-- The spellings of a string, without its quotes. -/
inductive Spells : List Char → List Char → Prop
  | nil : Spells [] []
  | cons {cs rest ds : List Char} {c : Char} (hc : SpellsChar cs c) (hrest : Spells rest ds) :
      Spells (cs ++ rest) (c :: ds)

theorem Spells.append {cs cs' ds ds' : List Char} (h : Spells cs ds) (h' : Spells cs' ds') :
    Spells (cs ++ cs') (ds ++ ds') := by
  induction h with
  | nil => exact h'
  | cons hc hrest ih =>
    rw [List.append_assoc]
    exact .cons hc ih

/-- A string that needs no escapes spells itself. -/
theorem spells_self {cs : List Char}
    (h : ∀ c ∈ cs, c ≠ '"' ∧ c ≠ '\\' ∧ 0x20 ≤ c.toNat) : Spells cs cs := by
  induction cs with
  | nil => exact .nil
  | cons c cs ih =>
    obtain ⟨hquote, hbackslash, hprintable⟩ := h c List.mem_cons_self
    exact .cons (.raw hquote hbackslash hprintable) (ih fun c hc => h c (List.mem_cons_of_mem _ hc))

theorem shortEscaped?_of_mem {e c : Char} (h : (e, c) ∈ shortEscapes) :
    e ≠ 'u' ∧ shortEscaped? e = some c := by
  have hall : ∀ p ∈ shortEscapes, p.1 ≠ 'u' ∧ shortEscaped? p.1 = some p.2 := by decide
  exact hall _ h

theorem hexQuad_append {ds : List Char} {n : Nat} (h : IsQuad ds n) (rest : List Char) :
    hexQuad (ds ++ rest) = .ok (n, rest) := by
  obtain ⟨hlength, hvalue⟩ := h
  have htake : (ds ++ rest).take 4 = ds := List.take_left' hlength
  have hdrop : (ds ++ rest).drop 4 = rest := List.drop_left' hlength
  have hlong : ¬ (ds ++ rest).length < 4 := by
    rw [List.length_append]
    omega
  -- Each character has at least one byte.
  have hbytes : ∀ cs : List Char, cs.length ≤ cs.foldr (fun c n => c.utf8Size + n) 0 := by
    intro cs
    induction cs with
    | nil => exact Nat.le_refl 0
    | cons c cs ih =>
      have hc := c.utf8Size_pos
      rw [List.length_cons, List.foldr_cons]
      omega
  have hfour := hbytes ds
  rw [hexQuad, htake, hdrop, hvalue, if_neg (by omega), if_neg hlong]

theorem escape_short {e c : Char} (h : (e, c) ∈ shortEscapes) (rest : List Char) :
    escape (e :: rest) = .ok (c, rest) := by
  obtain ⟨hu, he⟩ := shortEscaped?_of_mem h
  simp only [escape, he]

theorem escape_unit {ds : List Char} {c : Char} (h : IsQuad ds c.toNat) (rest : List Char) :
    escape ('u' :: (ds ++ rest)) = .ok (c, rest) := by
  obtain ⟨hlow, hhigh⟩ := not_surrogate c
  simp [escape, hexQuad_append h, hlow, hhigh]

theorem escape_pair {ds ds' : List Char} {high low : Nat} {c : Char}
    (h : IsQuad ds (0xD800 + high)) (h' : IsQuad ds' (0xDC00 + low)) (hhigh : high < 0x400)
    (hlow : low < 0x400) (hc : c.toNat = 0x10000 + high * 0x400 + low) (rest : List Char) :
    escape ('u' :: (ds ++ '\\' :: 'u' :: (ds' ++ rest))) = .ok (c, rest) := by
  have hfirst : isHighSurrogate (0xD800 + high) = true := by
    simp only [isHighSurrogate, Bool.and_eq_true, decide_eq_true_eq]
    omega
  have hnot : isLowSurrogate (0xD800 + high) = false := by
    simp only [isLowSurrogate, Bool.and_eq_false_iff, decide_eq_false_iff_not]
    omega
  have hsecond : isLowSurrogate (0xDC00 + low) = true := by
    simp only [isLowSurrogate, Bool.and_eq_true, decide_eq_true_eq]
    omega
  have hchar : Char.ofNat (0x10000 + high * 0x400 + low) = c := by
    rw [← hc, Char.ofNat_toNat]
  simp [escape, hexQuad_append h, hexQuad_append h', hfirst, hnot, lowHalf, hsecond, hchar]

theorem string_spelling {cs : List Char} {c : Char} (h : SpellsChar cs c) (rest : List Char) :
    string (cs ++ rest) = (string rest).map fun (ds, after) => (c :: ds, after) := by
  cases h with
  | raw hquote hbackslash hprintable =>
    rw [List.singleton_append, string, if_neg hquote, if_neg hbackslash,
      if_neg (Nat.not_lt.mpr hprintable)]
  | short h => exact string_backslash (escape_short h rest)
  | unit h => exact string_backslash (escape_unit h rest)
  | pair h h' hhigh hlow hc =>
    rw [List.append_assoc]
    exact string_backslash (escape_pair h h' hhigh hlow hc rest)

/-- **Every spelling of a string is read as the string.** -/
theorem string_of_spells {cs ds : List Char} (h : Spells cs ds) (rest : List Char) :
    string (cs ++ '"' :: rest) = .ok (ds, rest) := by
  induction h with
  | nil => rw [List.nil_append, string, if_pos rfl]
  | cons hc hrest ih =>
    rw [List.append_assoc, string_spelling hc, ih]
    rfl

/-! ### Strings that nobody looks at

Any four digits may follow `\u` there, a half of a surrogate pair without the other half among them. -/

inductive CharText : List Char → Prop
  | raw {c : Char} (hquote : c ≠ '"') (hbackslash : c ≠ '\\') (hprintable : 0x20 ≤ c.toNat) :
      CharText [c]
  | short {e c : Char} (h : (e, c) ∈ shortEscapes) : CharText ['\\', e]
  | unit {ds : List Char} {n : Nat} (h : IsQuad ds n) : CharText ('\\' :: 'u' :: ds)

/-- The text of a string, without its quotes. -/
inductive StringText : List Char → Prop
  | nil : StringText []
  | cons {cs rest : List Char} (hc : CharText cs) (hrest : StringText rest) :
      StringText (cs ++ rest)

theorem skipString_backslash {cs rest : List Char} (h : skipEscape cs = .ok rest) :
    skipString ('\\' :: cs) = skipString rest := by
  rw [skipString, if_neg (by decide), if_pos rfl]
  split
  · rename_i e he
    rw [h] at he
    cases he
  · rename_i rest' hrest
    rw [h] at hrest
    cases hrest
    rfl

theorem skipString_charText {cs : List Char} (h : CharText cs) (rest : List Char) :
    skipString (cs ++ rest) = skipString rest := by
  cases h with
  | raw hquote hbackslash hprintable =>
    rw [List.singleton_append, skipString, if_neg hquote, if_neg hbackslash,
      if_neg (Nat.not_lt.mpr hprintable)]
  | @short e c h =>
    obtain ⟨hu, he⟩ := shortEscaped?_of_mem h
    have hskip : skipEscape (e :: rest) = .ok rest := by simp only [skipEscape, he]
    exact skipString_backslash hskip
  | unit h => exact skipString_backslash (by simp [skipEscape, hexQuad_append h, Except.map])

theorem skipString_of_stringText {cs : List Char} (h : StringText cs) (rest : List Char) :
    skipString (cs ++ '"' :: rest) = .ok rest := by
  induction h with
  | nil => rw [List.nil_append, skipString, if_pos rfl]
  | cons hc hrest ih => rw [List.append_assoc, skipString_charText hc, ih]

/-! ### Numbers -/

/-- What may stand between the whole digits of a number and its exponent. -/
def FractionText (cs : List Char) : Prop := cs = [] ∨ ∃ ds, AreDigits ds ∧ cs = '.' :: ds

/-- What may stand at the end of a number. -/
def ExponentText (cs : List Char) : Prop :=
  cs = [] ∨ ∃ mark sign ds, (mark = 'e' ∨ mark = 'E') ∧ (sign = [] ∨ sign = ['+'] ∨ sign = ['-']) ∧
    AreDigits ds ∧ cs = mark :: (sign ++ ds)

/-- A number; of its whole digits only a zero starts with a zero. -/
inductive NumberText : List Char → Prop
  | unsigned {whole fraction exponent : List Char} (hwhole : AreDigits whole)
      (hzero : whole.head? = some '0' → whole = ['0']) (hfraction : FractionText fraction)
      (hexponent : ExponentText exponent) : NumberText (whole ++ (fraction ++ exponent))
  | negative {whole fraction exponent : List Char} (hwhole : AreDigits whole)
      (hzero : whole.head? = some '0' → whole = ['0']) (hfraction : FractionText fraction)
      (hexponent : ExponentText exponent) : NumberText ('-' :: (whole ++ (fraction ++ exponent)))

theorem exists_fractionPart {cs rest : List Char} (h : FractionText cs)
    (hrest : ∀ c ∈ rest.head?, c.isDigit = false ∧ c ≠ '.') :
    ∃ fraction, fractionPart (cs ++ rest) = .ok (fraction, rest) := by
  rcases h with rfl | ⟨ds, hds, rfl⟩
  · have hnone : ∀ ds ∈ (none : Option (List Char)), AreDigits ds := by simp
    exact ⟨none, fractionPart_append hnone hrest⟩
  · have hsome : ∀ ds' ∈ some ds, AreDigits ds' := by simpa using hds
    exact ⟨some ds, fractionPart_append hsome hrest⟩

theorem exponentSign_digits {ds : List Char} (h : AreDigits ds) (rest : List Char) :
    exponentSign (ds ++ rest) = (false, ds ++ rest) := by
  obtain ⟨hne, hall⟩ := h
  cases ds with
  | nil => exact absurd rfl hne
  | cons d ds =>
    have hd := hall d List.mem_cons_self
    have hplus : d ≠ '+' := by
      rintro rfl
      exact absurd hd (by decide)
    have hminus : d ≠ '-' := by
      rintro rfl
      exact absurd hd (by decide)
    simp [exponentSign, hplus, hminus]

theorem exists_exponentPart {cs rest : List Char} (h : ExponentText cs) (hrest : EndsNumeral rest) :
    ∃ exponent, exponentPart (cs ++ rest) = .ok (exponent, rest) := by
  rcases h with rfl | ⟨mark, sign, ds, hmark, hsign, hds, rfl⟩
  · have hnone : ∀ p ∈ (none : Option (Bool × List Char)), AreDigits p.2 := by simp
    exact ⟨none, exponentPart_append hnone hrest⟩
  · have hdigits := digits_append hds fun c hc => (hrest c hc).1
    have hread : exponentSign (sign ++ (ds ++ rest)) = (decide (sign = ['-']), ds ++ rest) := by
      rcases hsign with rfl | rfl | rfl
      · exact exponentSign_digits hds rest
      · rfl
      · rfl
    refine ⟨some (decide (sign = ['-']), ds), ?_⟩
    simp [exponentPart, hmark, hread, hdigits, Except.map]

theorem exists_unsignedNumeral {whole fraction exponent rest : List Char} (hwhole : AreDigits whole)
    (hzero : whole.head? = some '0' → whole = ['0']) (hfraction : FractionText fraction)
    (hexponent : ExponentText exponent) (hrest : EndsNumeral rest) (negative : Bool) :
    ∃ n, unsignedNumeral negative (whole ++ (fraction ++ exponent) ++ rest) = .ok (n, rest) := by
  have hafter : ∀ c ∈ (exponent ++ rest).head?, c.isDigit = false ∧ c ≠ '.' := by
    intro c hc
    rcases hexponent with rfl | ⟨mark, sign, ds, hmark, -, -, rfl⟩
    · exact ⟨(hrest c hc).1, (hrest c hc).2.1⟩
    · obtain rfl : mark = c := Option.some.inj hc
      rcases hmark with rfl | rfl <;> decide
  have hnext : ∀ c ∈ (fraction ++ (exponent ++ rest)).head?, c.isDigit = false := by
    intro c hc
    rcases hfraction with rfl | ⟨ds, -, rfl⟩
    · exact (hafter c hc).1
    · obtain rfl : '.' = c := Option.some.inj hc
      decide
  obtain ⟨f, hf⟩ := exists_fractionPart hfraction hafter
  obtain ⟨e, he⟩ := exists_exponentPart hexponent hrest
  refine ⟨⟨negative, whole, f, e⟩, ?_⟩
  rw [List.append_assoc, List.append_assoc, unsignedNumeral, wholePart_append hwhole hzero hnext]
  dsimp only
  rw [hf]
  dsimp only
  rw [he]

/-- **A number is read to its last character.** -/
theorem exists_numeral_of_numberText {cs rest : List Char} (h : NumberText cs)
    (hrest : EndsNumeral rest) :
    (∃ c tail, cs = c :: tail ∧ (c = '-' ∨ c.isDigit = true)) ∧
      ∃ n, numeral (cs ++ rest) = .ok (n, rest) := by
  cases h with
  | negative hwhole hzero hfraction hexponent =>
    exact ⟨⟨_, _, rfl, .inl rfl⟩,
      exists_unsignedNumeral hwhole hzero hfraction hexponent hrest true⟩
  | @unsigned whole fraction exponent hwhole hzero hfraction hexponent =>
    obtain ⟨n, hn⟩ := exists_unsignedNumeral hwhole hzero hfraction hexponent hrest false
    cases whole with
    | nil => exact absurd rfl hwhole.1
    | cons d ds =>
      have hd := hwhole.2 d List.mem_cons_self
      have hminus : d ≠ '-' := by
        rintro rfl
        exact absurd hd (by decide)
      refine ⟨⟨d, _, rfl, .inr hd⟩, n, ?_⟩
      rw [← hn]
      simp [numeral, hminus]

end DimensionalMetrics.Json
