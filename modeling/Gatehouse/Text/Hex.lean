/-!
# Hexadecimal octets

Two digits for each octet, the high half first. Writing uses lowercase digits;
reading accepts both cases and refuses an odd number of digits.
-/

namespace Gatehouse.Text.Hex

/-- The digit of a value below sixteen. -/
def digit (value : Nat) : Char :=
  if value < 10 then Char.ofNat (48 + value) else Char.ofNat (87 + value)

/-- The value of a digit of either case. -/
def value? (character : Char) : Option Nat :=
  let code := character.toNat
  if 48 ≤ code ∧ code ≤ 57 then some (code - 48)
  else if 97 ≤ code ∧ code ≤ 102 then some (code - 87)
  else if 65 ≤ code ∧ code ≤ 70 then some (code - 55)
  else none

/-- The two digits of each octet. -/
def encodeChars (octets : List UInt8) : List Char :=
  octets.flatMap fun octet => [digit (octet.toNat / 16), digit (octet.toNat % 16)]

/-- Lowercase digits, two for each octet. -/
def encode (octets : List UInt8) : String := String.ofList (encodeChars octets)

/-- The octets of an even number of digits. -/
def decodeChars? : List Char → Option (List UInt8)
  | [] => some []
  | [_] => none
  | high :: low :: rest => do
    let highValue ← value? high
    let lowValue ← value? low
    let octets ← decodeChars? rest
    return UInt8.ofNat (highValue * 16 + lowValue) :: octets

/-- The octets a text of digits stands for. -/
def decode? (text : String) : Option (List UInt8) := decodeChars? text.toList

end Gatehouse.Text.Hex
