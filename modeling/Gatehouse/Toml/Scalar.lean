import Gatehouse.Toml.Quoted

/-!
# TOML numbers and points in time

Integers of 64 bits in four bases, floats, and days and times of the calendar. An
underscore may stand between two digits. A float that no finite number is near to is
refused when it is positive.
-/

namespace Gatehouse.Toml

/-- A number as it is written, before its range is checked. -/
inductive Scalar
  | integer (value : Int)
  | float
  | moment
deriving DecidableEq, Repr

namespace Scalar

/-- Digits of a base with single underscores between them. -/
def digits (isDigit : Char → Bool) (done : List Char) : List Char → Option (List Char × List Char)
  | [] => if done.isEmpty then none else some (done.reverse, [])
  | '_' :: next :: rest =>
    if ¬ done.isEmpty ∧ isDigit next then digits isDigit (next :: done) rest else none
  | first :: rest =>
    if isDigit first then digits isDigit (first :: done) rest
    else if done.isEmpty ∨ first = '_' then none
    else some (done.reverse, first :: rest)

/-- The value of digits in a base. -/
def valueOf (base : Nat) (digits : List Char) : Nat :=
  digits.foldl (fun value digit => value * base + (Text.Hex.value? digit).getD 0) 0

/-- A sign, if there is one: whether it is a minus. -/
def sign : List Char → Bool × List Char
  | '-' :: rest => (true, rest)
  | '+' :: rest => (false, rest)
  | characters => (false, characters)

/-- The digits of a decimal integer, which has no zero in front of other digits. -/
def whole : Reader (List Char)
  | '0' :: rest => if rest.head? = some '_' then none else some (['0'], rest)
  | characters => digits Char.isDigit [] characters

/-- An integer in one of the other bases. -/
def readBased (base : Nat) (isDigit : Char → Bool) : Reader Scalar := fun characters => do
  let (found, rest) ← digits isDigit [] characters
  let value := valueOf base found
  if value < Nat.pow 2 63 then some (.integer value, rest) else none

/-- An integer in base ten. -/
def readInteger : Reader Scalar := fun characters => do
  let (negative, rest) := sign characters
  let (found, rest) ← whole rest
  let value := valueOf 10 found
  if negative then
    if value ≤ Nat.pow 2 63 then some (.integer (-value), rest) else none
  else if value < Nat.pow 2 63 then some (.integer value, rest)
  else none

/-- The digits behind the point of a float; none where there is no point. -/
def fraction : Reader (List Char)
  | '.' :: rest => digits Char.isDigit [] rest
  | characters => some ([], characters)

/-- The exponent of a float; none where there is no mark. -/
def exponent : Reader (Option Int)
  | first :: rest =>
    if first = 'e' ∨ first = 'E' then do
      let (negative, rest) := sign rest
      let (found, rest) ← digits Char.isDigit [] rest
      let value : Int := valueOf 10 found
      some (some (if negative then -value else value), rest)
    else some (none, first :: rest)
  | [] => some (none, [])

/-- Whether a decimal significand and a power of ten lie where rounding gives no finite float. The
power is only computed with where it decides. -/
def overflows (significand : Nat) (power : Int) : Bool :=
  let magnitude : Int := (Nat.toDigits 10 significand).length + power
  if significand = 0 ∨ magnitude < 309 then false
  else if 309 < magnitude then true
  else
    let bound := Nat.pow 2 1024 - Nat.pow 2 970
    if 0 ≤ power then bound ≤ significand * Nat.pow 10 power.toNat
    else bound * Nat.pow 10 (-power).toNat ≤ significand

/-- A float: an integer with a fraction, an exponent or both. -/
def readFloat : Reader Scalar := fun characters => do
  let (negative, behindSign) := sign characters
  let (front, rest) ← whole behindSign
  let (behind, afterFraction) ← fraction rest
  let (power, last) ← exponent afterFraction
  if rest.head? ≠ some '.' ∧ power.isNone then none
  else if ¬ negative ∧
      overflows (valueOf 10 (front ++ behind)) (power.getD 0 - behind.length) then none
  else some (.float, last)

/-- A float that is no number in digits. -/
def readWordFloat : Reader Scalar := fun characters =>
  match (sign characters).2 with
  | 'i' :: 'n' :: 'f' :: rest => some (.float, rest)
  | 'n' :: 'a' :: 'n' :: rest => some (.float, rest)
  | _ => none

/-- A number of exactly so many digits between two bounds. -/
def bounded (width lower upper : Nat) : Reader Nat := fun characters =>
  let found := characters.take width
  let value := valueOf 10 found
  if found.length = width ∧ found.all Char.isDigit ∧ lower ≤ value ∧ value ≤ upper then
    some (value, characters.drop width)
  else none

/-- One given character. -/
def mark (expected : Char) : List Char → Option (List Char)
  | first :: rest => if first = expected then some rest else none
  | [] => none

/-- The number of days of a month. -/
def daysOf (year month : Nat) : Nat :=
  if month = 2 then
    if year % 4 = 0 ∧ (year % 100 ≠ 0 ∨ year % 400 = 0) then 29 else 28
  else if month = 4 ∨ month = 6 ∨ month = 9 ∨ month = 11 then 30
  else 31

/-- The text behind a day of the calendar. -/
def afterDay? (characters : List Char) : Option (List Char) := do
  let (year, rest) ← bounded 4 0 9999 characters
  let rest ← mark '-' rest
  let (month, rest) ← bounded 2 1 12 rest
  let rest ← mark '-' rest
  let (_, rest) ← bounded 2 1 (daysOf year month) rest
  return rest

/-- The text behind the fraction of a second, which may be absent. -/
def afterFraction? : List Char → Option (List Char)
  | '.' :: rest =>
    if (rest.head?.map Char.isDigit).getD false then some (rest.dropWhile Char.isDigit) else none
  | characters => some characters

/-- The text behind a time of the day. -/
def afterTime? (characters : List Char) : Option (List Char) := do
  let (_, rest) ← bounded 2 0 23 characters
  let rest ← mark ':' rest
  let (_, rest) ← bounded 2 0 59 rest
  let rest ← mark ':' rest
  let (_, rest) ← bounded 2 0 60 rest
  afterFraction? rest

/-- The text behind the distance from the zero meridian, which may be absent. -/
def afterOffset? : List Char → Option (List Char)
  | [] => some []
  | first :: rest =>
    if first = 'Z' ∨ first = 'z' then some rest
    else if first = '+' ∨ first = '-' then do
      let (_, rest) ← bounded 2 0 23 rest
      let rest ← mark ':' rest
      let (_, rest) ← bounded 2 0 59 rest
      return rest
    else some (first :: rest)

/-- The text behind a time on a day, which may be absent. -/
def afterDayTime? : List Char → Option (List Char)
  | [] => some []
  | first :: rest =>
    if first = 'T' ∨ first = 't' ∨ first = ' ' then
      match afterTime? rest with
      | some rest => afterOffset? rest
      | none => some (first :: rest)
    else some (first :: rest)

/-- A point in time: a day, a day with a time, or a time. -/
def readMoment : Reader Scalar := fun characters =>
  match afterDay? characters with
  | some rest => (afterDayTime? rest).map fun rest => (.moment, rest)
  | none => (afterTime? characters).map fun rest => (.moment, rest)

/-- Whether a character is an octal digit. -/
def isOctal (character : Char) : Bool := '0' ≤ character && character ≤ '7'

/-- Whether a character is a binary digit. -/
def isBinary (character : Char) : Bool := character == '0' || character == '1'

/-- Whether a character is a hexadecimal digit. -/
def isHex (character : Char) : Bool := (Text.Hex.value? character).isSome

/-- A number or a point in time, whichever form the text has. -/
def read : Reader Scalar
  | '0' :: 'x' :: rest => readBased 16 isHex rest
  | '0' :: 'o' :: rest => readBased 8 isOctal rest
  | '0' :: 'b' :: rest => readBased 2 isBinary rest
  | characters =>
    readMoment characters <|> readFloat characters <|> readInteger characters <|>
      readWordFloat characters

end Scalar

end Gatehouse.Toml
