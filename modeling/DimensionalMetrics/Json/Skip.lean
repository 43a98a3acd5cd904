import DimensionalMetrics.Json.Scan

/-!
# Passing over a JSON value

A value that nobody needs is passed over without being built.  It must be well formed, to any depth
of nesting, but its numbers may be of any size and its strings may name any code units.
-/

namespace DimensionalMetrics.Json.Scan

/-- Passes over a value that is no array and no object, at the first character of the text. -/
def skipScalar (cs : List Char) : Except Fault (List Char) :=
  match cs with
  | [] => .error .truncated
  | c :: rest =>
    if c = 'n' then word ['u', 'l', 'l'] rest
    else if c = 't' then word ['r', 'u', 'e'] rest
    else if c = 'f' then word ['a', 'l', 's', 'e'] rest
    else if c = '"' then skipString rest
    else if c = '-' ∨ c.isDigit then
      match numeral cs with
      | .error _ => .error .malformed
      | .ok (_, rest) => .ok rest
    else .error .malformed

/-- Passes over an object's next key and the colon after it. -/
def skipKey (cs : List Char) : Except Fault (List Char) :=
  match skipSpace cs with
  | [] => .error .truncated
  | c :: rest =>
    if c = '"' then
      match skipString rest with
      | .error e => .error e
      | .ok rest =>
        match skipSpace rest with
        | [] => .error .truncated
        | d :: rest => if d = ':' then .ok rest else .error .malformed
    else .error .malformed

theorem length_of_skipScalar {cs rest : List Char} (h : skipScalar cs = .ok rest) :
    rest.length < cs.length := by
  unfold skipScalar at h
  split at h
  · simp at h
  · rename_i c cs
    split at h
    · have := length_of_word h; simp only [List.length_cons]; omega
    split at h
    · have := length_of_word h; simp only [List.length_cons]; omega
    split at h
    · have := length_of_word h; simp only [List.length_cons]; omega
    split at h
    · have := length_of_skipString h; simp only [List.length_cons]; omega
    split at h
    · split at h
      · simp at h
      · rename_i n rest' hn
        simp only [Except.ok.injEq] at h
        rw [← h]; exact length_of_numeral hn
    · simp at h

theorem length_of_skipKey {cs rest : List Char} (h : skipKey cs = .ok rest) :
    rest.length < cs.length := by
  unfold skipKey at h
  have hs := length_skipSpace_le cs
  split at h
  · simp at h
  · rename_i c cs₁ he
    rw [he] at hs
    simp only [List.length_cons] at hs
    split at h
    · split at h
      · simp at h
      · rename_i cs₂ hq
        have h₂ := length_of_skipString hq
        have hs₂ := length_skipSpace_le cs₂
        split at h
        · simp at h
        · rename_i d cs₃ he₂
          rw [he₂] at hs₂
          simp only [List.length_cons] at hs₂
          split at h
          · simp only [Except.ok.injEq] at h
            rw [← h]; omega
          · simp at h
    · simp at h

theorem length_of_skipSpace {cs rest : List Char} {c : Char} (h : skipSpace cs = c :: rest) :
    rest.length < cs.length := by
  have := length_skipSpace_le cs
  rw [h] at this
  simp only [List.length_cons] at this
  omega

/-- What an unfinished value is inside of. -/
inductive Enclosing where
  | array
  | object
deriving DecidableEq, Repr

/-- The character that closes an array or an object. -/
def Enclosing.closing : Enclosing → Char
  | .array => ']'
  | .object => '\x7d'

/-- Passes over what comes before the next value inside an array (nothing) or an object (a key and a
colon). -/
def skipLabel : Enclosing → List Char → Except Fault (List Char)
  | .array, cs => .ok cs
  | .object, cs => skipKey cs

theorem length_of_skipLabel {e : Enclosing} {cs rest : List Char}
    (h : skipLabel e cs = .ok rest) : rest.length ≤ cs.length := by
  cases e with
  | array => simp only [skipLabel, Except.ok.injEq] at h; exact Nat.le_of_eq (by rw [h])
  | object => exact Nat.le_of_lt (length_of_skipKey h)

/-- What begins with a character, if an array or an object does. -/
def opening? (c : Char) : Option Enclosing :=
  if c = '[' then some .array else if c = '\x7b' then some .object else none

mutual

/-- Passes over a value and everything that encloses it, innermost first. -/
def skipValue (outer : List Enclosing) (cs : List Char) : Except Fault (List Char) :=
  match hs : skipSpace cs with
  | [] => .error .truncated
  | c :: rest =>
    have hlt : rest.length < cs.length := length_of_skipSpace hs
    match opening? c with
    | none =>
      match hscalar : skipScalar (c :: rest) with
      | .error e => .error e
      | .ok rest' =>
        have : rest'.length < cs.length := by
          have := length_of_skipScalar hscalar
          simp only [List.length_cons] at this
          omega
        skipRest outer rest'
    | some e =>
      match hs' : skipSpace rest with
      | [] => .error .truncated
      | d :: rest' =>
        have hlt' : rest'.length < cs.length := Nat.lt_trans (length_of_skipSpace hs') hlt
        if d = e.closing then skipRest outer rest'
        else
          match hl : skipLabel e rest with
          | .error e => .error e
          | .ok rest' =>
            have : rest'.length < cs.length := Nat.lt_of_le_of_lt (length_of_skipLabel hl) hlt
            skipValue (e :: outer) rest'
termination_by cs.length

/-- Passes over what follows a value inside everything that encloses it. -/
def skipRest (outer : List Enclosing) (cs : List Char) : Except Fault (List Char) :=
  match outer with
  | [] => .ok cs
  | e :: outer =>
    match hs : skipSpace cs with
    | [] => .error .truncated
    | c :: rest =>
      have hlt : rest.length < cs.length := length_of_skipSpace hs
      if c = ',' then
        match hl : skipLabel e rest with
        | .error e => .error e
        | .ok rest' =>
          have : rest'.length < cs.length := Nat.lt_of_le_of_lt (length_of_skipLabel hl) hlt
          skipValue (e :: outer) rest'
      else if c = e.closing then skipRest outer rest
      else .error .malformed
termination_by cs.length

end

def skip (cs : List Char) : Except Fault (List Char) := skipValue [] cs

end DimensionalMetrics.Json.Scan
