/-!
# Binary floating point numbers, held exactly

A finite number of the 64-bit binary format is a sign, a mantissa and a power of
two. All arithmetic is exact on naturals and rounded once at the end, to the
nearest number and, between two that are as near, to the one with the even
mantissa. Infinities and results that are not numbers have no value here: an
operation that would give one gives `none`.

The exponent is always the largest that keeps every bit: either the mantissa
fills 53 bits or the exponent is the smallest one. So equal numbers of one sign
are equal values.
-/

namespace Gatehouse

/-- The number `mantissa * 2 ^ exponent`, negated when `negative` holds. Zero has both signs. -/
structure Binary64 where
  negative : Bool
  mantissa : Nat
  exponent : Int
deriving DecidableEq, Repr, Inhabited

namespace Binary64

/-- The smallest exponent, that of the numbers near zero. -/
def smallestExponent : Int := -1074

/-- The largest exponent of a finite number. -/
def largestExponent : Int := 971

/-- Zero of either sign. -/
def zero (negative : Bool) : Binary64 := ⟨negative, 0, smallestExponent⟩

/-- `numerator / denominator` as a natural, half units going to the even neighbour. -/
def roundQuotient (numerator denominator : Nat) : Nat :=
  let quotient := numerator / denominator
  let twice := 2 * (numerator % denominator)
  if twice < denominator then quotient
  else if denominator < twice then quotient + 1
  else if quotient % 2 = 0 then quotient
  else quotient + 1

/-- A ratio divided by `2 ^ exponent`, as a ratio. -/
def scale (numerator denominator : Nat) (exponent : Int) : Nat × Nat :=
  if exponent ≤ 0 then (numerator * Nat.pow 2 exponent.natAbs, denominator)
  else (numerator, denominator * Nat.pow 2 exponent.natAbs)

/-- The exponent at which the mantissa of a positive ratio fills 53 bits, or the smallest one. -/
def fittingExponent (numerator denominator : Nat) : Int :=
  let guess := max ((Nat.log2 numerator : Int) - Nat.log2 denominator - 53) smallestExponent
  let (top, bottom) := scale numerator denominator guess
  if top / bottom < Nat.pow 2 53 then guess else guess + 1

/-- The number nearest to a ratio, unless it is too large for a finite one. -/
def nearest? (negative : Bool) (numerator denominator : Nat) : Option Binary64 :=
  if numerator = 0 then some (zero negative)
  else
    let exponent := fittingExponent numerator denominator
    let (top, bottom) := scale numerator denominator exponent
    let mantissa := roundQuotient top bottom
    let (mantissa, exponent) :=
      if mantissa = Nat.pow 2 53 then (Nat.pow 2 52, exponent + 1) else (mantissa, exponent)
    if exponent ≤ largestExponent then some ⟨negative, mantissa, exponent⟩ else none

/-- The magnitude as a ratio of naturals. -/
def ratio (number : Binary64) : Nat × Nat :=
  scale number.mantissa 1 (-number.exponent)

/-- The number nearest to a natural. -/
def ofNat? (value : Nat) : Option Binary64 := nearest? false value 1

/-- The product of two magnitudes, with the sign of the first number. -/
def times? (first second : Binary64) : Option Binary64 :=
  let (firstTop, firstBottom) := first.ratio
  let (secondTop, secondBottom) := second.ratio
  nearest? first.negative (firstTop * secondTop) (firstBottom * secondBottom)

/-- The quotient of two magnitudes, with the sign of the first number. -/
def divide? (first second : Binary64) : Option Binary64 :=
  let (firstTop, firstBottom) := first.ratio
  let (secondTop, secondBottom) := second.ratio
  nearest? first.negative (firstTop * secondBottom) (firstBottom * secondTop)

/-- Whether a number is zero of either sign. -/
def isZero (number : Binary64) : Bool := number.mantissa == 0

end Binary64

end Gatehouse
