import DimensionalMetrics.Number.Decimal

/-!
# The text of a binary64 number

Numbers are written with the fewest digits that read back.  Positional notation is used while the
first digit stands between the fifth place after the point and the sixteenth before it, and always
shows a point; beyond that the number is written with a power of ten.
-/

namespace DimensionalMetrics

namespace Binary64

/-- The smallest power of ten of a first digit that is still written positionally. -/
def positionalFrom : Int := -5

/-- The smallest power of ten of a first digit that is no longer written positionally. -/
def positionalBelow : Int := 16

/-- The digits `ds` with the first one standing for `10 ^ leading`, in positional notation. -/
def positional (ds : List Char) (leading : Int) : List Char :=
  if leading < 0 then
    ['0', '.'] ++ List.replicate (-leading - 1).toNat '0' ++ ds
  else
    let whole := leading.toNat + 1
    let fraction := ds.drop whole
    ds.take whole ++ List.replicate (whole - ds.length) '0' ++ ['.'] ++
      (if fraction = [] then ['0'] else fraction)

/-- The digits `ds` with the first one standing for `10 ^ leading`, in scientific notation. -/
def scientific (ds : List Char) (leading : Int) : List Char :=
  let mantissa := match ds with
    | [] => []
    | [d] => [d]
    | d :: rest => d :: '.' :: rest
  mantissa ++ ['e', if leading < 0 then '-' else '+'] ++ Decimal.digits leading.natAbs

/-- The digits of a decimal without trailing zeros, and the power of ten of the first one. -/
def leadingDigits (d : Decimal) : List Char × Int :=
  let all := Decimal.digits d.coefficient
  ((all.reverse.dropWhile (· = '0')).reverse, d.exponent + all.length - 1)

def chars (x : Binary64) : List Char :=
  let magnitude :=
    if x.isZero then ['0', '.', '0']
    else
      let (ds, leading) := leadingDigits (Decimal.shortest (if x.isNegative then x.negate else x))
      if positionalFrom ≤ leading ∧ leading < positionalBelow then positional ds leading
      else scientific ds leading
  if x.isNegative then '-' :: magnitude else magnitude

def text (x : Binary64) : String := String.ofList x.chars

end Binary64

end DimensionalMetrics
