/-!
# Base64

Three octets are four digits of six bits. An alphabet gives the two digits that
differ between the variants; everything else is shared. Reading is strict, so a
text has at most one reading and octets have exactly one text: no padding in the
unpadded form, full padding in the padded form, and the bits that a last digit
carries beyond the last octet are zero.
-/

namespace Gatehouse.Text.Base64

/-- The digits for 62 and 63, the only ones that the variants disagree on. -/
structure Alphabet where
  digit62 : Char
  digit63 : Char
deriving DecidableEq, Repr

/-- The alphabet for URLs and file names. -/
def Alphabet.url : Alphabet := ⟨'-', '_'⟩

/-- The alphabet of textual key files. -/
def Alphabet.standard : Alphabet := ⟨'+', '/'⟩

/-- The digit of a value below 64. -/
def Alphabet.digit (alphabet : Alphabet) (value : Nat) : Char :=
  if value < 26 then Char.ofNat (65 + value)
  else if value < 52 then Char.ofNat (71 + value)
  else if value < 62 then Char.ofNat (value - 4)
  else if value = 62 then alphabet.digit62
  else alphabet.digit63

/-- The value of a digit. -/
def Alphabet.value? (alphabet : Alphabet) (character : Char) : Option Nat :=
  let code := character.toNat
  if 65 ≤ code ∧ code ≤ 90 then some (code - 65)
  else if 97 ≤ code ∧ code ≤ 122 then some (code - 71)
  else if 48 ≤ code ∧ code ≤ 57 then some (code + 4)
  else if character = alphabet.digit62 then some 62
  else if character = alphabet.digit63 then some 63
  else none

/-- Digits without padding. -/
def encodeChars (alphabet : Alphabet) : List UInt8 → List Char
  | [] => []
  | [a] =>
    let bits := a.toNat * 16
    [alphabet.digit (bits / 64), alphabet.digit (bits % 64)]
  | [a, b] =>
    let bits := (a.toNat * 256 + b.toNat) * 4
    [alphabet.digit (bits / 4096), alphabet.digit (bits / 64 % 64), alphabet.digit (bits % 64)]
  | a :: b :: c :: rest =>
    let bits := (a.toNat * 256 + b.toNat) * 256 + c.toNat
    alphabet.digit (bits / 262144) :: alphabet.digit (bits / 4096 % 64) ::
      alphabet.digit (bits / 64 % 64) :: alphabet.digit (bits % 64) :: encodeChars alphabet rest

/-- The octets of digits without padding. A single last digit carries no octet and is refused,
as are bits left over that are not zero. -/
def decodeChars? (alphabet : Alphabet) : List Char → Option (List UInt8)
  | [] => some []
  | [_] => none
  | [a, b] => do
    let bits := (← alphabet.value? a) * 64 + (← alphabet.value? b)
    if bits % 16 = 0 then some [UInt8.ofNat (bits / 16)] else none
  | [a, b, c] => do
    let bits := ((← alphabet.value? a) * 64 + (← alphabet.value? b)) * 64 + (← alphabet.value? c)
    if bits % 4 = 0 then some [UInt8.ofNat (bits / 1024), UInt8.ofNat (bits / 4 % 256)] else none
  | a :: b :: c :: d :: rest => do
    let bits := (((← alphabet.value? a) * 64 + (← alphabet.value? b)) * 64
      + (← alphabet.value? c)) * 64 + (← alphabet.value? d)
    let octets ← decodeChars? alphabet rest
    return UInt8.ofNat (bits / 65536) :: UInt8.ofNat (bits / 256 % 256)
      :: UInt8.ofNat (bits % 256) :: octets

/-- The octets of digits that padding completes to a multiple of four. -/
def decodePadded? (alphabet : Alphabet) (digits : List Char) : Option (List UInt8) :=
  let body := digits.reverse.dropWhile (· = '=') |>.reverse
  let padding := digits.length - body.length
  if digits.length % 4 = 0 ∧ padding ≤ 2 then decodeChars? alphabet body else none

/-- The octets of a text in the alphabet for URLs, without padding. -/
def decodeUrl? (text : String) : Option (List UInt8) :=
  decodeChars? .url text.toList

end Gatehouse.Text.Base64
