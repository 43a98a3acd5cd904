import DimensionalMetrics.Search
import DimensionalMetrics.Text.CompositionTable
import DimensionalMetrics.Text.Hex
import DimensionalMetrics.Text.Mark
import DimensionalMetrics.Text.Pieces

/-!
# Composed text

A letter with its marks can be written as one character or as several, and marks that attach at
different places in any order.  `composed` chooses among the spellings that are equal: it takes the
characters apart, puts the marks of each letter in the order of their combining classes, and then
puts as many of them as it can together again.  Main statement: putting marks in order only changes
their places.
-/

namespace DimensionalMetrics

/-- A character that stands for two others. -/
structure Composition where
  whole : Nat
  first : Nat
  second : Nat

def Composition.ofWord (word : List Char) : Composition :=
  let number (ds : List Char) : Nat := (hexNumber? ds).getD 0
  let parts := (word.dropWhile (· ≠ ':')).drop 1
  ⟨number (word.takeWhile (· ≠ ':')), number (parts.takeWhile (· ≠ ',')),
    number ((parts.dropWhile (· ≠ ',')).drop 1)⟩

def compositions : Array Composition :=
  compositionRows.flatMap fun row => ((pieces (· = ' ') row.toList).map Composition.ofWord).toArray

/-- Whether the parts of a composition come before two code points. -/
def Composition.before (first second : Nat) (c : Composition) : Bool :=
  c.first < first || (c.first = first && c.second < second)

def compositionsByParts : Array Composition :=
  (compositions.toList.mergeSort fun a b => !b.before a.first a.second).toArray

/-! ### Syllables of Hangul -/

/-- The first syllable. -/
def firstSyllable : Nat := 0xac00

/-- The parts of a syllable: its two parts if it has no final consonant, else the syllable without
that consonant and the consonant. -/
def splitSyllable? (code : Nat) : Option (Nat × Nat) :=
  let index := code - firstSyllable
  if code < firstSyllable ∨ 11172 ≤ index then none
  else if index % 28 = 0 then some (0x1100 + index / 588, 0x1161 + index % 588 / 28)
  else some (code - index % 28, 0x11a7 + index % 28)

/-- The syllable that two characters make. -/
def joinSyllable? (first second : Nat) : Option Nat :=
  if 0x1100 ≤ first ∧ first < 0x1113 ∧ 0x1161 ≤ second ∧ second < 0x1176 then
    some (firstSyllable + 588 * (first - 0x1100) + 28 * (second - 0x1161))
  else if firstSyllable ≤ first ∧ first < firstSyllable + 11172 ∧ (first - firstSyllable) % 28 = 0 ∧
      0x11a7 < second ∧ second < 0x11c3 then
    some (first + (second - 0x11a7))
  else none

/-! ### Taking apart -/

def parts? (code : Nat) : Option (Nat × Nat) :=
  let i := partitionPoint
    (fun i => (compositions[i]?.map fun c => decide (c.whole < code)).getD false)
    0 compositions.size
  match compositions[i]? with
  | some c => if c.whole = code then some (c.first, c.second) else splitSyllable? code
  | none => splitSyllable? code

/-- The characters that a character stands for when it is taken apart at most `depth` times. -/
def takeApart : Nat → Nat → List Char
  | 0, code => [Char.ofNat code]
  | depth + 1, code =>
    match parts? code with
    | some (first, second) => takeApart depth first ++ [Char.ofNat second]
    | none => [Char.ofNat code]

/-- The characters that a character stands for.  No character of the table has more than three marks
on its letter. -/
def decompose (c : Char) : List Char :=
  if c.toNat < 0x80 then [c] else takeApart 3 c.toNat

/-! ### Order of marks -/

/-- Puts a character in front of ordered ones, moving it behind the marks of lower classes that
follow if it is a mark itself. -/
def insertMark (c : Char) : List Char → List Char
  | [] => [c]
  | d :: rest =>
    if 0 < combiningClass d ∧ combiningClass d < combiningClass c then d :: insertMark c rest
    else c :: d :: rest

/-- A text in which the marks on each letter are in the order of their classes. -/
def orderMarks (cs : List Char) : List Char := cs.foldr insertMark []

theorem insertMark_perm (c : Char) (cs : List Char) : (insertMark c cs).Perm (c :: cs) := by
  induction cs with
  | nil => exact .refl _
  | cons d rest ih =>
    simp only [insertMark]
    split
    · exact (ih.cons d).trans (.swap c d rest)
    · exact .refl _

/-- **Ordering marks only changes their places.** -/
theorem orderMarks_perm (cs : List Char) : (orderMarks cs).Perm cs := by
  induction cs with
  | nil => exact .refl _
  | cons c cs ih => exact (insertMark_perm c _).trans (ih.cons c)

/-! ### Putting together -/

def join? (first second : Char) : Option Char :=
  let i := partitionPoint
    (fun i =>
      (compositionsByParts[i]?.map (Composition.before first.toNat second.toNat)).getD false)
    0 compositionsByParts.size
  let found : Option Nat :=
    match compositionsByParts[i]? with
    | some c =>
      if c.first = first.toNat ∧ c.second = second.toNat then some c.whole
      else joinSyllable? first.toNat second.toNat
    | none => joinSyllable? first.toNat second.toNat
  found.map Char.ofNat

/-- A text that is being put together. -/
structure Composer where
  /-- The finished characters, in reverse. -/
  done : List Char := []
  /-- The last letter, which may still take marks. -/
  letter : Option Char := none
  /-- The marks on that letter that it did not take, in reverse. -/
  marks : List Char := []

/-- Adds the next character.  A mark reaches the letter unless the mark before it is of the same
class or a higher one, and a letter reaches it only if no mark stands between them. -/
def Composer.add (k : Composer) (c : Char) : Composer :=
  match k.letter with
  | none =>
    if combiningClass c = 0 then { k with letter := some c } else { k with done := c :: k.done }
  | some letter =>
    let isFree : Bool :=
      match k.marks with
      | [] => true
      | mark :: _ => combiningClass mark < combiningClass c
    match (if isFree then join? letter c else none) with
    | some whole => { k with letter := some whole }
    | none =>
      if combiningClass c = 0 then ⟨k.marks ++ letter :: k.done, some c, []⟩
      else { k with marks := c :: k.marks }

def Composer.text (k : Composer) : List Char :=
  (k.marks ++ k.letter.toList ++ k.done).reverse

/-- The composed spelling of a text. -/
def composed (cs : List Char) : List Char :=
  ((orderMarks (cs.flatMap decompose)).foldl Composer.add {}).text

end DimensionalMetrics
