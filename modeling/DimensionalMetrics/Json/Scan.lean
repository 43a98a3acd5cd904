import DimensionalMetrics.Text.Hex

/-!
# Reading the pieces of JSON text

The words, strings and numerals that JSON text is made of, each read from the front of the text.  A
piece that cannot be read is either truncated (the text ended inside it) or malformed (a character
stands where none or another one must), and the first such place counts.
-/

namespace DimensionalMetrics

/-- Why JSON text cannot be read. -/
inductive Json.Fault where
  | truncated
  | malformed
deriving DecidableEq, Repr

namespace Json.Scan

def isSpace (c : Char) : Bool := c = ' ' || c = '\n' || c = '\t' || c = '\r'

def skipSpace (cs : List Char) : List Char := cs.dropWhile isSpace

theorem length_skipSpace_le (cs : List Char) : (skipSpace cs).length ≤ cs.length :=
  (List.dropWhile_suffix isSpace).length_le

/-- Reads the given characters and no others. -/
def word : List Char → List Char → Except Fault (List Char)
  | [], cs => .ok cs
  | _ :: _, [] => .error .truncated
  | w :: ws, c :: cs => if c = w then word ws cs else .error .malformed

theorem length_of_word {ws cs rest : List Char} (h : word ws cs = .ok rest) :
    rest.length ≤ cs.length := by
  induction ws generalizing cs with
  | nil => simp only [word, Except.ok.injEq] at h; exact Nat.le_of_eq (by rw [h])
  | cons w ws ih =>
    cases cs with
    | nil => simp [word] at h
    | cons c cs =>
      simp only [word] at h
      split at h
      · have := ih h; simp only [List.length_cons]; omega
      · simp at h

/-! ### Strings -/

def shortEscaped? (c : Char) : Option Char :=
  if c = '"' then some '"'
  else if c = '\\' then some '\\'
  else if c = '/' then some '/'
  else if c = 'b' then some '\x08'
  else if c = 'f' then some '\x0c'
  else if c = 'n' then some '\n'
  else if c = 'r' then some '\r'
  else if c = 't' then some '\t'
  else none

/-- The four hexadecimal digits of an escape.  The text is truncated if fewer than four bytes of it
are left, whatever they are. -/
def hexQuad (cs : List Char) : Except Fault (Nat × List Char) :=
  if (cs.take 4).foldr (fun c n => c.utf8Size + n) 0 < 4 then .error .truncated
  else if cs.length < 4 then .error .malformed
  else match hexNumber? (cs.take 4) with
    | some n => .ok (n, cs.drop 4)
    | none => .error .malformed

/-- Half of a surrogate pair that comes first. -/
def isHighSurrogate (n : Nat) : Bool := 0xD800 ≤ n && n ≤ 0xDBFF

/-- Half of a surrogate pair that comes second. -/
def isLowSurrogate (n : Nat) : Bool := 0xDC00 ≤ n && n ≤ 0xDFFF

/-- The second half of a surrogate pair, after the digits of the first half. -/
def lowHalf (high : Nat) : List Char → Except Fault (Char × List Char)
  | [] => .error .truncated
  | ['\\'] => .error .truncated
  | '\\' :: 'u' :: cs =>
    match hexQuad cs with
    | .error e => .error e
    | .ok (low, rest) =>
      if isLowSurrogate low then
        .ok (Char.ofNat (0x10000 + (high - 0xD800) * 0x400 + (low - 0xDC00)), rest)
      else .error .malformed
  | _ => .error .malformed

/-- What follows a backslash, where a surrogate must be half of a pair. -/
def escape : List Char → Except Fault (Char × List Char)
  | [] => .error .truncated
  | 'u' :: cs =>
    match hexQuad cs with
    | .error e => .error e
    | .ok (n, rest) =>
      if isLowSurrogate n then .error .malformed
      else if isHighSurrogate n then lowHalf n rest
      else .ok (Char.ofNat n, rest)
  | c :: cs =>
    match shortEscaped? c with
    | some d => .ok (d, cs)
    | none => .error .malformed

/-- What follows a backslash in a string that nobody looks at: any four digits will do. -/
def skipEscape : List Char → Except Fault (List Char)
  | [] => .error .truncated
  | 'u' :: cs => (hexQuad cs).map (·.2)
  | c :: cs =>
    match shortEscaped? c with
    | some _ => .ok cs
    | none => .error .malformed

theorem length_of_hexQuad {cs rest : List Char} {n : Nat} (h : hexQuad cs = .ok (n, rest)) :
    rest.length ≤ cs.length := by
  unfold hexQuad at h
  split at h
  · simp at h
  · split at h
    · simp at h
    · split at h
      · simp only [Except.ok.injEq, Prod.mk.injEq] at h
        rw [← h.2, List.length_drop]; omega
      · simp at h

theorem length_of_lowHalf {high : Nat} {cs rest : List Char} {c : Char}
    (h : lowHalf high cs = .ok (c, rest)) : rest.length ≤ cs.length := by
  unfold lowHalf at h
  split at h
  · simp at h
  · simp at h
  · rename_i cs
    split at h
    · simp at h
    · rename_i low rest' hq
      have hl := length_of_hexQuad hq
      split at h
      · simp only [Except.ok.injEq, Prod.mk.injEq] at h
        rw [← h.2]; simp only [List.length_cons]; omega
      · simp at h
  · simp at h

theorem length_of_escape {cs rest : List Char} {c : Char} (h : escape cs = .ok (c, rest)) :
    rest.length < cs.length := by
  unfold escape at h
  split at h
  · simp at h
  · split at h
    · simp at h
    · rename_i n rest' hq
      have hl := length_of_hexQuad hq
      split at h
      · simp at h
      · split at h
        · have := length_of_lowHalf h; simp only [List.length_cons]; omega
        · simp only [Except.ok.injEq, Prod.mk.injEq] at h
          rw [← h.2]; simp only [List.length_cons]; omega
  · split at h
    · simp only [Except.ok.injEq, Prod.mk.injEq] at h
      rw [← h.2]; simp
    · simp at h

theorem length_of_skipEscape {cs rest : List Char} (h : skipEscape cs = .ok rest) :
    rest.length < cs.length := by
  unfold skipEscape at h
  split at h
  · simp at h
  · rename_i cs
    cases hq : hexQuad cs with
    | error e => rw [hq] at h; simp [Except.map] at h
    | ok p =>
      rw [hq] at h
      simp only [Except.map, Except.ok.injEq] at h
      have := length_of_hexQuad (show hexQuad _ = .ok (p.1, p.2) from hq)
      rw [← h]; simp only [List.length_cons]; omega
  · split at h
    · simp only [Except.ok.injEq] at h
      rw [← h]; simp
    · simp at h

/-- A string after its opening quote: its characters, and the text after the closing quote. -/
def string (cs : List Char) : Except Fault (List Char × List Char) :=
  match cs with
  | [] => .error .truncated
  | c :: rest =>
    if c = '"' then .ok ([], rest)
    else if c = '\\' then
      match h : escape rest with
      | .error e => .error e
      | .ok (d, rest') =>
        have : rest'.length < rest.length := length_of_escape h
        (string rest').map fun (ds, after) => (d :: ds, after)
    else if c.toNat < 0x20 then .error .malformed
    else (string rest).map fun (ds, after) => (c :: ds, after)
termination_by cs.length

/-- The text after a string that nobody looks at, from its opening quote on. -/
def skipString (cs : List Char) : Except Fault (List Char) :=
  match cs with
  | [] => .error .truncated
  | c :: rest =>
    if c = '"' then .ok rest
    else if c = '\\' then
      match h : skipEscape rest with
      | .error e => .error e
      | .ok rest' =>
        have : rest'.length < rest.length := length_of_skipEscape h
        skipString rest'
    else if c.toNat < 0x20 then .error .malformed
    else skipString rest
termination_by cs.length

theorem length_of_skipString {cs rest : List Char} (h : skipString cs = .ok rest) :
    rest.length < cs.length := by
  fun_induction skipString cs with
  | case1 => simp at h
  | case2 rest' => simp only [Except.ok.injEq] at h; rw [h]; simp
  | case3 => simp at h
  | case4 rest₁ rest' he hlen hq ih => have := ih h; simp only [List.length_cons]; omega
  | case5 => simp at h
  | case6 c rest₁ hq hb hc ih => have := ih h; simp only [List.length_cons]; omega

/-! ### Numerals -/

/-- A numeral as it stands in the text, its digits unread. -/
structure Numeral where
  negative : Bool
  whole : List Char
  /-- The digits after the point, if there is a point. -/
  fraction : Option (List Char)
  /-- Whether the exponent is negative, and its digits, if there is one. -/
  exponent : Option (Bool × List Char)
deriving DecidableEq, Repr

/-- One decimal digit or more. -/
def digits (cs : List Char) : Except Fault (List Char × List Char) :=
  match cs with
  | [] => .error .truncated
  | c :: _ =>
    if c.isDigit then .ok (cs.takeWhile Char.isDigit, cs.dropWhile Char.isDigit)
    else .error .malformed

/-- The part of a numeral before the point: a zero, or digits of which the first is no zero. -/
def wholePart (cs : List Char) : Except Fault (List Char × List Char) :=
  match cs with
  | '0' :: c :: _ => if c.isDigit then .error .malformed else .ok (['0'], cs.drop 1)
  | _ => digits cs

/-- The part of a numeral after the point, point included, if there is one. -/
def fractionPart (cs : List Char) : Except Fault (Option (List Char) × List Char) :=
  match cs with
  | '.' :: rest => (digits rest).map fun (ds, after) => (some ds, after)
  | _ => .ok (none, cs)

/-- The sign of an exponent, if there is one. -/
def exponentSign : List Char → Bool × List Char
  | '+' :: rest => (false, rest)
  | '-' :: rest => (true, rest)
  | cs => (false, cs)

/-- The exponent of a numeral, mark included, if there is one. -/
def exponentPart (cs : List Char) : Except Fault (Option (Bool × List Char) × List Char) :=
  match cs with
  | c :: rest =>
    if c = 'e' ∨ c = 'E' then
      let (negative, rest) := exponentSign rest
      (digits rest).map fun (ds, after) => (some (negative, ds), after)
    else .ok (none, cs)
  | [] => .ok (none, cs)

/-- A numeral without its sign. -/
def unsignedNumeral (negative : Bool) (cs : List Char) : Except Fault (Numeral × List Char) :=
  match wholePart cs with
  | .error e => .error e
  | .ok (whole, cs) =>
    match fractionPart cs with
    | .error e => .error e
    | .ok (fraction, cs) =>
      match exponentPart cs with
      | .error e => .error e
      | .ok (exponent, cs) => .ok (⟨negative, whole, fraction, exponent⟩, cs)

/-- A numeral: an optional minus sign and what follows it. -/
def numeral : List Char → Except Fault (Numeral × List Char)
  | '-' :: rest => unsignedNumeral true rest
  | cs => unsignedNumeral false cs

theorem length_of_digits {cs ds rest : List Char} (h : digits cs = .ok (ds, rest)) :
    rest.length < cs.length := by
  unfold digits at h
  split at h
  · simp at h
  · rename_i c cs
    split at h
    · rename_i hd
      simp only [Except.ok.injEq, Prod.mk.injEq] at h
      rw [← h.2, List.dropWhile_cons_of_pos hd]
      have := (List.dropWhile_suffix Char.isDigit (l := cs)).length_le
      simp only [List.length_cons]; omega
    · simp at h

theorem length_of_wholePart {cs ds rest : List Char} (h : wholePart cs = .ok (ds, rest)) :
    rest.length < cs.length := by
  unfold wholePart at h
  split at h
  · split at h
    · simp at h
    · simp only [Except.ok.injEq, Prod.mk.injEq] at h
      rw [← h.2]; simp
  · exact length_of_digits h

theorem length_of_fractionPart {cs rest : List Char} {ds : Option (List Char)}
    (h : fractionPart cs = .ok (ds, rest)) : rest.length ≤ cs.length := by
  unfold fractionPart at h
  split at h
  · rename_i cs
    cases hd : digits cs with
    | error e => rw [hd] at h; simp [Except.map] at h
    | ok p =>
      rw [hd] at h
      simp only [Except.map, Except.ok.injEq, Prod.mk.injEq] at h
      have := length_of_digits (show digits _ = .ok (p.1, p.2) from hd)
      rw [← h.2]; simp only [List.length_cons]; omega
  · simp only [Except.ok.injEq, Prod.mk.injEq] at h
    exact Nat.le_of_eq (by rw [h.2])

theorem length_exponentSign_le (cs : List Char) : (exponentSign cs).2.length ≤ cs.length := by
  unfold exponentSign
  split <;> simp

theorem length_of_exponentPart {cs rest : List Char} {e : Option (Bool × List Char)}
    (h : exponentPart cs = .ok (e, rest)) : rest.length ≤ cs.length := by
  unfold exponentPart at h
  split at h
  · rename_i c cs
    split at h
    · have hs := length_exponentSign_le cs
      cases hd : digits (exponentSign cs).2 with
      | error e => simp only [hd] at h; simp [Except.map] at h
      | ok p =>
        simp only [hd, Except.map, Except.ok.injEq, Prod.mk.injEq] at h
        have := length_of_digits (show digits _ = .ok (p.1, p.2) from hd)
        rw [← h.2]; simp only [List.length_cons]; omega
    · simp only [Except.ok.injEq, Prod.mk.injEq] at h
      exact Nat.le_of_eq (by rw [h.2])
  · simp only [Except.ok.injEq, Prod.mk.injEq] at h
    exact Nat.le_of_eq (by rw [h.2])

theorem length_of_unsignedNumeral {negative : Bool} {cs rest : List Char} {n : Numeral}
    (h : unsignedNumeral negative cs = .ok (n, rest)) : rest.length < cs.length := by
  unfold unsignedNumeral at h
  split at h
  · simp at h
  · rename_i whole cs₁ hw
    split at h
    · simp at h
    · rename_i fraction cs₂ hf
      split at h
      · simp at h
      · rename_i exponent cs₃ he
        simp only [Except.ok.injEq, Prod.mk.injEq] at h
        have h₁ := length_of_wholePart hw
        have h₂ := length_of_fractionPart hf
        have h₃ := length_of_exponentPart he
        rw [← h.2]; omega

theorem length_of_numeral {cs rest : List Char} {n : Numeral} (h : numeral cs = .ok (n, rest)) :
    rest.length < cs.length := by
  unfold numeral at h
  split at h
  · have := length_of_unsignedNumeral h; simp only [List.length_cons]; omega
  · exact length_of_unsignedNumeral h

end Json.Scan

end DimensionalMetrics
