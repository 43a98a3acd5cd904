import DimensionalMetrics.Proofs.Json.Grammar

/-!
# Values that are passed over

A value is a word, a string, a number, or an array or an object of values, with blanks between any two
of these.  Whoever needs no value passes over it, however deep it is: the reader stands at its end
then, inside of what encloses it.
-/

namespace DimensionalMetrics.Json

open Scan

/-- The character that opens an array or an object. -/
def Scan.Enclosing.opening : Enclosing → Char
  | array => '['
  | object => '\x7b'

/-- A value that is no array and no object. -/
inductive ScalarText : List Char → Prop
  | null : ScalarText ['n', 'u', 'l', 'l']
  | true : ScalarText ['t', 'r', 'u', 'e']
  | false : ScalarText ['f', 'a', 'l', 's', 'e']
  | string {cs : List Char} (h : StringText cs) : ScalarText ('"' :: (cs ++ ['"']))
  | number {cs : List Char} (h : NumberText cs) : ScalarText cs

/-- What stands before an item of an array (nothing) or before the value of a member of an object (its
key and a colon). -/
inductive LabelText : Enclosing → List Char → Prop
  | item : LabelText .array []
  | key {ws cs ws' : List Char} (hws : Blank ws) (h : StringText cs) (hws' : Blank ws') :
      LabelText .object (ws ++ '"' :: (cs ++ '"' :: (ws' ++ [':'])))

/-- The pieces of JSON text: a value, the entries of an array or an object to its end, and what
follows an entry to that end. -/
inductive Piece where
  | value
  | entries (e : Enclosing)
  | more (e : Enclosing)

/-- The text of a piece. -/
inductive PieceText : Piece → List Char → Prop
  | scalar {cs : List Char} (h : ScalarText cs) : PieceText .value cs
  | empty {e : Enclosing} {ws : List Char} (hws : Blank ws) :
      PieceText .value (e.opening :: (ws ++ [e.closing]))
  | filled {e : Enclosing} {cs : List Char} (h : PieceText (.entries e) cs) :
      PieceText .value (e.opening :: cs)
  | entry {e : Enclosing} {label ws value ws' cs : List Char} (hlabel : LabelText e label)
      (hws : Blank ws) (hvalue : PieceText .value value) (hws' : Blank ws')
      (h : PieceText (.more e) cs) :
      PieceText (.entries e) (label ++ (ws ++ (value ++ (ws' ++ cs))))
  | close {e : Enclosing} : PieceText (.more e) [e.closing]
  | next {e : Enclosing} {cs : List Char} (h : PieceText (.entries e) cs) :
      PieceText (.more e) (',' :: cs)

/-- The text of a value. -/
abbrev ValueText (cs : List Char) : Prop := PieceText .value cs

/-! ### One step of passing over -/

theorem word_append (ws rest : List Char) : word ws (ws ++ rest) = .ok rest := by
  induction ws with
  | nil => rfl
  | cons w ws ih => simpa [word] using ih

theorem skipScalar_of_scalarText {cs : List Char} (h : ScalarText cs) {rest : List Char}
    (hrest : EndsNumeral rest) : skipScalar (cs ++ rest) = .ok rest := by
  cases h with
  | null => exact word_append ['u', 'l', 'l'] rest
  | true => exact word_append ['r', 'u', 'e'] rest
  | false => exact word_append ['a', 'l', 's', 'e'] rest
  | string h =>
    rw [List.cons_append, List.append_assoc, List.singleton_append]
    exact skipString_of_stringText h rest
  | number h =>
    obtain ⟨⟨c, tail, rfl, hc⟩, n, hn⟩ := exists_numeral_of_numberText h hrest
    have hletters : c ≠ 'n' ∧ c ≠ 't' ∧ c ≠ 'f' ∧ c ≠ '"' := by
      refine ⟨?_, ?_, ?_, ?_⟩ <;> (rintro rfl; revert hc; decide)
    obtain ⟨h₁, h₂, h₃, h₄⟩ := hletters
    rw [List.cons_append] at hn ⊢
    rw [skipScalar, if_neg h₁, if_neg h₂, if_neg h₃, if_neg h₄, if_pos hc, hn]

theorem skipValue_eq (outer : List Enclosing) (cs : List Char) :
    skipValue outer cs =
      match skipSpace cs with
      | [] => .error .truncated
      | c :: rest =>
        match opening? c with
        | none => skipScalar (c :: rest) >>= skipRest outer
        | some e =>
          match skipSpace rest with
          | [] => .error .truncated
          | d :: rest' =>
            if d = e.closing then skipRest outer rest'
            else skipLabel e rest >>= skipValue (e :: outer) := by
  rw [skipValue]
  split
  · rename_i hspace
    rw [hspace]
  · rename_i c rest hspace
    dsimp only
    rw [hspace]
    dsimp only
    cases opening? c with
    | none =>
      dsimp only
      split
      · rename_i hscalar
        rw [hscalar]
        rfl
      · rename_i hscalar
        rw [hscalar]
        rfl
    | some e =>
      dsimp only
      split
      · rename_i hspace'
        rw [hspace']
      · rename_i d rest' hspace'
        rw [hspace']
        dsimp only
        split
        · rfl
        · split
          · rename_i hlabel
            rw [hlabel]
            rfl
          · rename_i hlabel
            rw [hlabel]
            rfl

theorem skipRest_cons (e : Enclosing) (outer : List Enclosing) (cs : List Char) :
    skipRest (e :: outer) cs =
      match skipSpace cs with
      | [] => .error .truncated
      | c :: rest =>
        if c = ',' then skipLabel e rest >>= skipValue (e :: outer)
        else if c = e.closing then skipRest outer rest
        else .error .malformed := by
  rw [skipRest.eq_def]
  dsimp only
  split
  · rename_i hspace
    rw [hspace]
  · rename_i c rest hspace
    rw [hspace]
    dsimp only
    split
    · split
      · rename_i hlabel
        rw [hlabel]
        rfl
      · rename_i hlabel
        rw [hlabel]
        rfl
    · rfl

theorem opening?_opening (e : Enclosing) : opening? e.opening = some e := by
  cases e <;> rfl

theorem isSpace_opening (e : Enclosing) : isSpace e.opening = false := by
  cases e <;> rfl

theorem isSpace_closing (e : Enclosing) : isSpace e.closing = false := by
  cases e <;> rfl

theorem closing_ne_comma (e : Enclosing) : e.closing ≠ ',' := by
  cases e <;> decide

theorem endsNumeral_closing (e : Enclosing) (rest : List Char) :
    EndsNumeral (e.closing :: rest) := by
  cases e <;> exact endsNumeral_cons (by decide) rest

theorem endsNumeral_comma (rest : List Char) : EndsNumeral (',' :: rest) :=
  endsNumeral_cons (by decide) rest

theorem endsNumeral_append {ws cs : List Char} (hws : Blank ws) (h : EndsNumeral cs) :
    EndsNumeral (ws ++ cs) := by
  cases ws with
  | nil => exact h
  | cons c ws =>
    have hc := hws c List.mem_cons_self
    simp only [isSpace, Bool.or_eq_true, decide_eq_true_eq] at hc
    rcases hc with ((rfl | rfl) | rfl) | rfl <;> exact endsNumeral_cons (by decide) _

theorem skipValue_append {ws : List Char} (h : Blank ws) (outer : List Enclosing) (cs : List Char) :
    skipValue outer (ws ++ cs) = skipValue outer cs := by
  rw [skipValue_eq, skipValue_eq, skipSpace_append h]

theorem skipRest_append {ws : List Char} (h : Blank ws) (e : Enclosing) (outer : List Enclosing)
    (cs : List Char) : skipRest (e :: outer) (ws ++ cs) = skipRest (e :: outer) cs := by
  rw [skipRest_cons, skipRest_cons, skipSpace_append h]

/-! ### Pieces -/

theorem opening?_of_startsScalar {cs : List Char} (h : ScalarText cs) :
    ∃ c tail, cs = c :: tail ∧ StartsValue c ∧ opening? c = none := by
  cases h with
  | null => exact ⟨_, _, rfl, ⟨by decide, by decide, by decide⟩, rfl⟩
  | true => exact ⟨_, _, rfl, ⟨by decide, by decide, by decide⟩, rfl⟩
  | false => exact ⟨_, _, rfl, ⟨by decide, by decide, by decide⟩, rfl⟩
  | string h => exact ⟨_, _, rfl, ⟨by decide, by decide, by decide⟩, rfl⟩
  | number h =>
    obtain ⟨⟨c, tail, rfl, hc⟩, -⟩ := exists_numeral_of_numberText h endsNumeral_nil
    refine ⟨c, tail, rfl, startsValue_of_numeral hc, ?_⟩
    have hbracket : c ≠ '[' := by
      rintro rfl
      revert hc
      decide
    have hbrace : c ≠ '\x7b' := by
      rintro rfl
      revert hc
      decide
    rw [opening?, if_neg hbracket, if_neg hbrace]

theorem skipLabel_of_labelText {e : Enclosing} {label : List Char} (h : LabelText e label)
    (rest : List Char) : skipLabel e (label ++ rest) = .ok rest := by
  cases h with
  | item => rfl
  | @key ws cs ws' hws hkey hws' =>
    have hquote : skipSpace (ws ++ '"' :: (cs ++ '"' :: (ws' ++ [':'])) ++ rest) =
        '"' :: (cs ++ '"' :: (ws' ++ ':' :: rest)) := by
      rw [List.append_assoc, skipSpace_append hws, List.cons_append, skipSpace_cons (by decide)]
      simp
    have hcolon : skipSpace (ws' ++ ':' :: rest) = ':' :: rest := by
      rw [skipSpace_append hws', skipSpace_cons (by decide)]
    simp only [skipLabel, skipKey, hquote, if_true, skipString_of_stringText hkey, hcolon]

/-- An entry does not start with the closing bracket. -/
theorem starts_entry {e : Enclosing} {label ws : List Char} {c : Char} (h : LabelText e label)
    (hws : Blank ws) (hc : StartsValue c) (rest : List Char) :
    ∃ d tail, skipSpace (label ++ (ws ++ c :: rest)) = d :: tail ∧ d ≠ e.closing := by
  cases h with
  | item => exact ⟨c, rest, by rw [List.nil_append, skipSpace_append hws, skipSpace_cons hc.1], hc.2.1⟩
  | @key ws₁ cs ws₂ hws₁ hkey hws₂ =>
    refine ⟨'"', cs ++ '"' :: (ws₂ ++ [':']) ++ (ws ++ c :: rest), ?_, by decide⟩
    rw [List.append_assoc, skipSpace_append hws₁, List.cons_append, skipSpace_cons (by decide)]

/-- What it is to pass over a piece: the reader stands at what follows. -/
def Passes : Piece → List Char → Prop
  | .value, cs => (∃ c tail, cs = c :: tail ∧ StartsValue c) ∧
      ∀ outer rest, EndsNumeral rest → skipValue outer (cs ++ rest) = skipRest outer rest
  | .entries e, cs => ∀ rest, (∃ c tail, skipSpace (cs ++ rest) = c :: tail ∧ c ≠ e.closing) ∧
      ∀ outer, (skipLabel e (cs ++ rest) >>= skipValue (e :: outer)) = skipRest outer rest
  | .more e, cs => (∃ c tail, cs = c :: tail ∧ (c = ',' ∨ c = e.closing)) ∧
      ∀ outer rest, skipRest (e :: outer) (cs ++ rest) = skipRest outer rest

theorem passes_of_pieceText {p : Piece} {cs : List Char} (h : PieceText p cs) : Passes p cs := by
  induction h with
  | scalar h =>
    obtain ⟨c, tail, rfl, hc, hopening⟩ := opening?_of_startsScalar h
    refine ⟨⟨c, tail, rfl, hc⟩, fun outer rest hrest => ?_⟩
    have hscalar := skipScalar_of_scalarText h hrest
    rw [List.cons_append] at hscalar ⊢
    rw [skipValue_eq, skipSpace_cons hc.1]
    simp only [hopening, hscalar]
    rfl
  | @empty e ws hws =>
    refine ⟨⟨_, _, rfl, ?_⟩, fun outer rest _ => ?_⟩
    · cases e <;> exact ⟨by decide, by decide, by decide⟩
    · rw [List.cons_append, skipValue_eq, skipSpace_cons (isSpace_opening e)]
      have hclose : skipSpace (ws ++ [e.closing] ++ rest) = e.closing :: rest := by
        rw [List.append_assoc, skipSpace_append hws]
        exact skipSpace_cons (isSpace_closing e) rest
      simp only [opening?_opening, hclose, if_true]
  | @filled e cs h ih =>
    refine ⟨⟨_, _, rfl, ?_⟩, fun outer rest _ => ?_⟩
    · cases e <;> exact ⟨by decide, by decide, by decide⟩
    · obtain ⟨⟨c, tail, hspace, hc⟩, hskip⟩ := ih rest
      rw [List.cons_append, skipValue_eq, skipSpace_cons (isSpace_opening e)]
      simp only [opening?_opening, hspace, if_neg hc, hskip]
  | @entry e label ws value ws' cs hlabel hws hvalue hws' h ihvalue ih =>
    obtain ⟨⟨c, tail, rfl, hc⟩, hskip⟩ := ihvalue
    obtain ⟨⟨d, tail', rfl, hd⟩, hmore⟩ := ih
    intro rest
    simp only [List.append_assoc, List.cons_append] at hskip hmore ⊢
    refine ⟨starts_entry hlabel hws hc _, fun outer => ?_⟩
    have hends : EndsNumeral (ws' ++ d :: (tail' ++ rest)) := by
      refine endsNumeral_append hws' ?_
      rcases hd with rfl | rfl
      · exact endsNumeral_comma _
      · exact endsNumeral_closing e _
    calc skipLabel e (label ++ (ws ++ c :: (tail ++ (ws' ++ d :: (tail' ++ rest))))) >>=
          skipValue (e :: outer)
        = skipValue (e :: outer) (ws ++ c :: (tail ++ (ws' ++ d :: (tail' ++ rest)))) := by
          rw [skipLabel_of_labelText hlabel]
          rfl
      _ = skipRest (e :: outer) (ws' ++ d :: (tail' ++ rest)) := by
          rw [skipValue_append hws, hskip (e :: outer) _ hends]
      _ = skipRest outer rest := by rw [skipRest_append hws', hmore outer rest]
  | @close e =>
    refine ⟨⟨_, _, rfl, .inr rfl⟩, fun outer rest => ?_⟩
    rw [List.singleton_append, skipRest_cons, skipSpace_cons (isSpace_closing e)]
    simp only [if_neg (closing_ne_comma e), if_true]
  | @next e cs h ih =>
    refine ⟨⟨_, _, rfl, .inl rfl⟩, fun outer rest => ?_⟩
    rw [List.cons_append, skipRest_cons, skipSpace_cons (by decide)]
    simp only [if_true, (ih rest).2]

/-- **A value is passed over to its last character**, whatever encloses it. -/
theorem skip_of_valueText {ws cs rest : List Char} (hws : Blank ws) (h : ValueText cs)
    (hrest : EndsNumeral rest) : skip (ws ++ (cs ++ rest)) = .ok rest := by
  rw [skip, skipValue_append hws, (passes_of_pieceText h).2 [] rest hrest, skipRest]

end DimensionalMetrics.Json
