/-!
# Decimal numbers in text

Natural numbers as people write them into a variable: digits, and perhaps a plus sign in
front. Zeros in front change nothing.
-/

namespace Gatehouse.Text

/-- The number that decimal digits write. -/
def ofDigits (digits : List Char) : Nat :=
  digits.foldl (fun value digit => value * 10 + (digit.toNat - '0'.toNat)) 0

/-- A number of 64 bits. -/
def parseUnsigned64? (text : String) : Option UInt64 :=
  let digits := match text.toList with
    | '+' :: rest => rest
    | characters => characters
  if digits.isEmpty || !digits.all Char.isDigit then none
  else if ofDigits digits < Nat.pow 2 64 then some (UInt64.ofNat (ofDigits digits)) else none

end Gatehouse.Text
