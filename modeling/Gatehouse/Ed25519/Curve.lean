/-!
# The twisted Edwards curve

Points of the curve `-x² + y² = 1 + d x² y²` over the integers modulo
`2 ^ 255 - 19`, in extended coordinates: `x = X / Z`, `y = Y / Z` and `T = X Y / Z`.
The addition law has no exceptional case on this curve, so one formula serves sums,
doubles and the neutral point.
-/

namespace Gatehouse.Ed25519

/-- The modulus of the coordinates. -/
def fieldSize : Nat := Nat.pow 2 255 - 19

/-- The order of the base point. -/
def groupOrder : Nat := Nat.pow 2 252 + 27742317777372353535851937790883648493

/-- A power modulo the field size, by squaring; the fuel bounds the bits of the exponent. -/
def powerMod (base exponent : Nat) : Nat → Nat
  | 0 => 1
  | fuel + 1 =>
    let half := powerMod (base * base % fieldSize) (exponent / 2) fuel
    if exponent % 2 = 1 then half * base % fieldSize else half

/-- The inverse of a coordinate, and zero for zero. -/
def inverse (value : Nat) : Nat := powerMod value (fieldSize - 2) 256

/-- The difference of two numbers in the field. -/
def subtract (first second : Nat) : Nat := (first + fieldSize - second % fieldSize) % fieldSize

/-- The coefficient `d` of the curve. -/
def curveD : Nat := subtract 0 (121665 * inverse 121666 % fieldSize)

/-- A square root of minus one. -/
def rootOfMinusOne : Nat := powerMod 2 ((fieldSize - 1) / 4) 256

/-- A point in extended coordinates. -/
structure Point where
  x : Nat
  y : Nat
  z : Nat
  t : Nat
deriving DecidableEq, Repr

namespace Point

/-- The neutral point. -/
def zero : Point := ⟨0, 1, 1, 0⟩

/-- The sum of two points. -/
def add (first second : Point) : Point :=
  let a := subtract first.y first.x * subtract second.y second.x % fieldSize
  let b := (first.y + first.x) * (second.y + second.x) % fieldSize
  let c := first.t * second.t % fieldSize * (2 * curveD) % fieldSize
  let d := 2 * first.z * second.z % fieldSize
  let e := subtract b a
  let f := subtract d c
  let g := (d + c) % fieldSize
  let h := (b + a) % fieldSize
  ⟨e * f % fieldSize, g * h % fieldSize, f * g % fieldSize, e * h % fieldSize⟩

/-- The point opposite to a point. -/
def negate (point : Point) : Point :=
  ⟨subtract 0 point.x, point.y, point.z, subtract 0 point.t⟩

/-- Double and add over the bits of the factor, the lowest first; the fuel bounds their number. -/
def multiplyInto (sum point : Point) (factor : Nat) : Nat → Point
  | 0 => sum
  | fuel + 1 =>
    if factor = 0 then sum
    else
      let sum := if factor % 2 = 1 then sum.add point else sum
      multiplyInto sum (point.add point) (factor / 2) fuel

/-- A multiple of a point, for factors below `2 ^ 256`. -/
def multiply (factor : Nat) (point : Point) : Point := multiplyInto zero point factor 256

/-- Whether two points are the same point of the curve. -/
def same (first second : Point) : Bool :=
  first.x * second.z % fieldSize == second.x * first.z % fieldSize &&
    first.y * second.z % fieldSize == second.y * first.z % fieldSize

/-- Whether eight times the point is the neutral point. -/
def isSmallOrder (point : Point) : Bool :=
  let twice := point.add point
  let fourTimes := twice.add twice
  (fourTimes.add fourTimes).same zero

end Point

/-- The number of octets, the lowest first. -/
def littleEndian (octets : List UInt8) : Nat :=
  octets.foldr (fun octet value => octet.toNat + 256 * value) 0

/-- The 32 octets of a number, the lowest first. -/
def octetsOf (value : Nat) : List UInt8 :=
  (List.range 32).map fun place => UInt8.ofNat (value / Nat.pow 256 place % 256)

/-- The two roots of `u / v` are this value and its opposite, if the ratio is a square. -/
def rootOfRatio? (u v : Nat) : Option Nat :=
  let v3 := v * v % fieldSize * v % fieldSize
  let v7 := v3 * v3 % fieldSize * v % fieldSize
  let power := powerMod (u * v7 % fieldSize) ((fieldSize - 5) / 8) 256
  let guess := u * v3 % fieldSize * power % fieldSize
  let check := v * (guess * guess % fieldSize) % fieldSize
  if check = u % fieldSize then some guess
  else if check = subtract 0 u then some (guess * rootOfMinusOne % fieldSize)
  else none

namespace Point

/-- The 32 octets of a point: its `y`, with the lowest bit of its `x` in the place of the top
bit. -/
def compress (point : Point) : List UInt8 :=
  let scale := inverse point.z
  let x := point.x * scale % fieldSize
  let y := point.y * scale % fieldSize
  octetsOf (y + x % 2 * Nat.pow 2 255)

/-- The point that 32 octets stand for, if one has that `y`. A `y` past the modulus counts modulo
it, so some points have more than one spelling. -/
def decompress? (octets : List UInt8) : Option Point := do
  let number := littleEndian octets
  let y := number % Nat.pow 2 255 % fieldSize
  let square := y * y % fieldSize
  let root ← rootOfRatio? (subtract square 1) ((curveD * square + 1) % fieldSize)
  let x := if root % 2 = number / Nat.pow 2 255 % 2 then root else subtract 0 root
  return ⟨x, y, 1, x * y % fieldSize⟩

/-- The base point: its `y` is four fifths and its `x` is even. -/
def base : Point :=
  let y := 4 * inverse 5 % fieldSize
  (decompress? (octetsOf y)).getD zero

end Point

end Gatehouse.Ed25519
