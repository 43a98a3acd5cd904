/-!
# XXH64

The 64-bit xxHash of a byte sequence: four lanes over stripes of thirty-two bytes, then eight, four
and single bytes folded into the sum, then an avalanche.
-/

namespace DimensionalMetrics

namespace XXHash64

def prime₁ : UInt64 := 11400714785074694791
def prime₂ : UInt64 := 14029467366897019727
def prime₃ : UInt64 := 1609587929392839161
def prime₄ : UInt64 := 9650029242287828579
def prime₅ : UInt64 := 2870177450012600261

/-- A word turned left by `k` bits, for `0 < k < 64`. -/
def rotateLeft (w : UInt64) (k : UInt64) : UInt64 := (w <<< k) ||| (w >>> (64 - k))

/-- Bytes as a number, the first one least significant. -/
def littleEndian (bytes : List UInt8) : UInt64 :=
  bytes.foldr (fun b acc => acc <<< 8 ||| b.toUInt64) 0

def mix (lane input : UInt64) : UInt64 := rotateLeft (lane + input * prime₂) 31 * prime₁

/-- The four lanes of a hash over long input. -/
structure Lanes where
  v₁ : UInt64
  v₂ : UInt64
  v₃ : UInt64
  v₄ : UInt64

namespace Lanes

def start (seed : UInt64) : Lanes :=
  ⟨seed + prime₁ + prime₂, seed + prime₂, seed, seed - prime₁⟩

def absorb (l : Lanes) (stripe : List UInt8) : Lanes where
  v₁ := mix l.v₁ (littleEndian (stripe.take 8))
  v₂ := mix l.v₂ (littleEndian ((stripe.drop 8).take 8))
  v₃ := mix l.v₃ (littleEndian ((stripe.drop 16).take 8))
  v₄ := mix l.v₄ (littleEndian ((stripe.drop 24).take 8))

def converge (l : Lanes) : UInt64 :=
  [l.v₁, l.v₂, l.v₃, l.v₄].foldl (fun acc v => (acc ^^^ mix 0 v) * prime₁ + prime₄)
    (rotateLeft l.v₁ 1 + rotateLeft l.v₂ 7 + rotateLeft l.v₃ 12 + rotateLeft l.v₄ 18)

/-- The lanes after all whole stripes of the input, and the bytes left over. -/
def absorbAll (l : Lanes) (bytes : List UInt8) : Lanes × List UInt8 :=
  if 32 ≤ bytes.length then absorbAll (l.absorb (bytes.take 32)) (bytes.drop 32)
  else (l, bytes)
termination_by bytes.length
decreasing_by simp only [List.length_drop]; omega

end Lanes

/-- Fewer than four bytes, one at a time. -/
def foldBytes (acc : UInt64) (bytes : List UInt8) : UInt64 :=
  bytes.foldl (fun acc b => rotateLeft (acc ^^^ b.toUInt64 * prime₅) 11 * prime₁) acc

/-- Fewer than eight bytes: four at once if there are as many. -/
def foldHalf (acc : UInt64) (bytes : List UInt8) : UInt64 :=
  if 4 ≤ bytes.length then
    foldBytes (rotateLeft (acc ^^^ littleEndian (bytes.take 4) * prime₁) 23 * prime₂ + prime₃)
      (bytes.drop 4)
  else foldBytes acc bytes

/-- Fewer than thirty-two bytes: eight at a time. -/
def foldWords (acc : UInt64) (bytes : List UInt8) : UInt64 :=
  if 8 ≤ bytes.length then
    foldWords (rotateLeft (acc ^^^ mix 0 (littleEndian (bytes.take 8))) 27 * prime₁ + prime₄)
      (bytes.drop 8)
  else foldHalf acc bytes
termination_by bytes.length
decreasing_by simp only [List.length_drop]; omega

/-- Spreads every bit of the sum over the whole word. -/
def avalanche (h : UInt64) : UInt64 :=
  let h := (h ^^^ (h >>> 33)) * prime₂
  let h := (h ^^^ (h >>> 29)) * prime₃
  h ^^^ (h >>> 32)

def hash (seed : UInt64) (bytes : List UInt8) : UInt64 :=
  let (acc, rest) :=
    if 32 ≤ bytes.length then
      let (lanes, rest) := (Lanes.start seed).absorbAll bytes
      (lanes.converge, rest)
    else (seed + prime₅, bytes)
  avalanche (foldWords (acc + UInt64.ofNat bytes.length) rest)

end XXHash64

end DimensionalMetrics
