import Gatehouse.Number.Binary64

/-!
# The shortest decimal that reads back

A number of the binary format stands for every real that rounds to it. Among the
decimals in that interval the shortest is chosen, among the shortest the nearest,
and of two as near the one with the even last digit. For each count of digits only
the two neighbours of the number on that decimal grid can be the choice, so the
search tests those two, from one digit up to seventeen, which always suffice.
-/

namespace Gatehouse.Number

/-- A positive decimal: its digits, the first of which counts units of `10 ^ exponent`. -/
structure Decimal where
  digits : List Char
  exponent : Int
deriving DecidableEq, Repr, Inhabited

/-- A ratio divided by `10 ^ exponent`, as a ratio. -/
def scaleTen (numerator denominator : Nat) (exponent : Int) : Nat × Nat :=
  if exponent ≤ 0 then (numerator * Nat.pow 10 exponent.natAbs, denominator)
  else (numerator, denominator * Nat.pow 10 exponent.natAbs)

/-- The power of ten of the first digit of a positive ratio, from a guess that is too low by at
most the fuel. -/
def leadingPower (numerator denominator : Nat) (guess : Int) : Nat → Int
  | 0 => guess
  | fuel + 1 =>
    let (top, bottom) := scaleTen numerator denominator (guess + 1)
    if top < bottom then guess else leadingPower numerator denominator (guess + 1) fuel

/-- The interval of reals that round to a number, as four times its unit in the last place:
the distance to the lower end, the distance to the upper end, and whether the ends belong to it. -/
structure Neighbourhood where
  below : Nat
  above : Nat
  closed : Bool

/-- Below a power of two the neighbours stand half as far apart. -/
def neighbourhood (number : Binary64) : Neighbourhood where
  below :=
    if number.mantissa = Nat.pow 2 52 ∧ number.exponent ≠ Binary64.smallestExponent then 1 else 2
  above := 2
  closed := number.mantissa % 2 == 0

/-- Whether `count` units of `10 ^ power` round to the number. Everything is compared in quarters
of the number's last place. -/
def roundsTo (number : Binary64) (count : Nat) (power : Int) : Bool :=
  let around := neighbourhood number
  let (unitTop, unitBottom) := scaleTen count 1 (-power)
  let (top, bottom) := Binary64.scale (unitTop * 4) unitBottom number.exponent
  let middle := number.mantissa * 4
  let low := (middle - around.below) * bottom
  let high := (middle + around.above) * bottom
  if around.closed then low ≤ top && top ≤ high else low < top && top < high

/-- The better of the two grid points around the number, if either rounds to it. -/
def gridPoint? (number : Binary64) (power : Int) : Option Nat :=
  let (numerator, denominator) := number.ratio
  let (top, bottom) := scaleTen numerator denominator power
  let lower := top / bottom
  let upper := lower + 1
  let twice := 2 * (top % bottom)
  let lowerNearer := twice < bottom || (twice == bottom && lower % 2 == 0)
  match roundsTo number lower power, roundsTo number upper power with
  | true, true => some (if lowerNearer then lower else upper)
  | true, false => some lower
  | false, true => some upper
  | false, false => none

/-- Decimal digits without trailing zeros, and the power of ten of the first digit. -/
def normalize (count : Nat) (power : Int) : Decimal :=
  let digits := Nat.toDigits 10 count
  let kept := (digits.reverse.dropWhile (· = '0')).reverse
  ⟨kept, power + digits.length - 1⟩

/-- Try grids of more and more digits. -/
def searchGrids (number : Binary64) (leading : Int) (digits : Nat) : Nat → Decimal
  | 0 => normalize 0 0
  | fuel + 1 =>
    let power := leading - digits
    match gridPoint? number power with
    | some count => normalize count power
    | none => searchGrids number leading (digits + 1) fuel

/-- The shortest decimal that reads back as a number that is not zero. -/
def shortest (number : Binary64) : Decimal :=
  let (numerator, denominator) := number.ratio
  let guess := ((Nat.log2 number.mantissa : Int) + number.exponent) * 1233 / 4096 - 2
  searchGrids number (leadingPower numerator denominator guess 8) 0 18

/-- The powers of ten whose numbers are written without an exponent. -/
def isPositional (exponent : Int) : Bool := -5 ≤ exponent && exponent ≤ 15

/-- The magnitude of a decimal: a point and at least one digit behind it where no exponent is
written, and an exponent with its sign elsewhere. -/
def Decimal.write (decimal : Decimal) : List Char :=
  if isPositional decimal.exponent then
    if decimal.exponent < 0 then
      '0' :: '.' :: List.replicate (decimal.exponent.natAbs - 1) '0' ++ decimal.digits
    else
      let whole := decimal.exponent.natAbs + 1
      let padded := decimal.digits ++ List.replicate (whole - decimal.digits.length) '0'
      let fraction := padded.drop whole
      padded.take whole ++ '.' :: (if fraction.isEmpty then ['0'] else fraction)
  else
    let fraction := decimal.digits.drop 1
    let sign := if decimal.exponent < 0 then '-' else '+'
    decimal.digits.take 1 ++ (if fraction.isEmpty then [] else '.' :: fraction) ++
      'e' :: sign :: Nat.toDigits 10 decimal.exponent.natAbs

/-- The text of a number: the shortest digits that read back. -/
def writeBinary64 (number : Binary64) : List Char :=
  let magnitude := if number.isZero then ['0', '.', '0'] else (shortest number).write
  if number.negative then '-' :: magnitude else magnitude

end Gatehouse.Number
