import Gatehouse.Text.Hex

/-!
# Reading back hexadecimal octets

The two digits of an octet are its halves, so digits that were written are read as the
octets that they stand for, and octets with the same digits are equal.
-/

namespace Gatehouse.Text.Hex

/-- A digit is read as the value that it was written for. -/
theorem value?_digit {value : Nat} (small : value < 16) : value? (digit value) = some value := by
  have all : ∀ value, value < 16 → value? (digit value) = some value := by decide
  exact all value small

/-- Reading the digits of octets gives the octets back. -/
theorem decodeChars?_encodeChars (octets : List UInt8) :
    decodeChars? (encodeChars octets) = some octets := by
  induction octets with
  | nil => rfl
  | cons octet rest inductionHypothesis =>
    have bound : octet.toNat < 256 := octet.toNat_lt
    have high := value?_digit (show octet.toNat / 16 < 16 by omega)
    have low := value?_digit (show octet.toNat % 16 < 16 by omega)
    have whole : octet.toNat / 16 * 16 + octet.toNat % 16 = octet.toNat := by omega
    have digits : encodeChars (octet :: rest) =
        digit (octet.toNat / 16) :: digit (octet.toNat % 16) :: encodeChars rest := rfl
    rw [digits, decodeChars?, high, low, inductionHypothesis]
    simp only [bind, Option.bind, pure, whole, UInt8.ofNat_toNat]

/-- Every octet has two digits. -/
theorem length_encode (octets : List UInt8) : (encode octets).length = 2 * octets.length := by
  rw [encode, String.length_ofList]
  induction octets with
  | nil => rfl
  | cons octet rest inductionHypothesis =>
    have digits : (encodeChars (octet :: rest)).length = (encodeChars rest).length + 2 := rfl
    rw [digits, inductionHypothesis, List.length_cons]
    omega

/-- The digits of values are those of the lowercase alphabet. -/
theorem digit_mem {value : Nat} (small : value < 16) :
    digit value ∈ "0123456789abcdef".toList := by
  have all : ∀ value, value < 16 → digit value ∈ "0123456789abcdef".toList := by decide
  exact all value small

/-- Only lowercase digits are written. -/
theorem digit_of_mem_encode {octets : List UInt8} {character : Char}
    (inside : character ∈ (encode octets).toList) : character ∈ "0123456789abcdef".toList := by
  rw [encode, String.toList_ofList] at inside
  obtain ⟨octet, -, half⟩ := List.mem_flatMap.mp inside
  have bound : octet.toNat < 256 := octet.toNat_lt
  rcases List.mem_cons.mp half with rfl | low
  · exact digit_mem (by omega)
  · obtain rfl := List.mem_singleton.mp low
    exact digit_mem (by omega)

/-- Octets with the same digits are equal, as they can be read back. -/
theorem encode_inj {first second : List UInt8} : encode first = encode second ↔ first = second := by
  constructor
  · intro same
    have digits : encodeChars first = encodeChars second := String.ofList_injective same
    have read := congrArg decodeChars? digits
    rw [decodeChars?_encodeChars, decodeChars?_encodeChars] at read
    exact Option.some.inj read
  · exact congrArg encode

end Gatehouse.Text.Hex
