import Gatehouse.Text.Decimal
import Mathlib.Data.Nat.Digits.Defs

/-!
# What a decimal number writes

The digits of a number are read from the front, each shifting what stands in front of it.
The number that they write is said from behind, as the sum of the digits with the powers
of ten at their places. A number of 64 bits is read exactly where a text writes a number
that has so many, and it is that number; a larger one is refused and never cut down.
-/

namespace Gatehouse.Text

/-- What a digit counts for. -/
def digitValue (digit : Char) : Nat := digit.toNat - '0'.toNat

/-- Digits that write a number, the last of them in the place of the ones. -/
structure AreDigitsOf (number : Nat) (digits : List Char) : Prop where
  nonempty : digits ≠ []
  decimal : ∀ digit ∈ digits, digit.isDigit = true
  value : Nat.ofDigits 10 (digits.reverse.map digitValue) = number

/-- A text that writes a number: one or more digits, perhaps behind a plus sign. -/
def WritesNatural (text : String) (number : Nat) : Prop :=
  AreDigitsOf number text.toList ∨ ∃ digits, text.toList = '+' :: digits ∧ AreDigitsOf number digits

/-- What stands behind a plus sign, or everything where there is none. -/
def behindSign : List Char → List Char
  | '+' :: rest => rest
  | characters => characters

variable {text : String} {digits : List Char} {number : Nat} {value : UInt64}

/-- Reading from the front gives the sum over the places. By induction on the digits from behind,
where the last place stands. -/
theorem ofDigits_eq (digits : List Char) :
    ofDigits digits = Nat.ofDigits 10 (digits.reverse.map digitValue) := by
  rw [Nat.ofDigits_eq_foldr, List.foldr_map, List.foldr_reverse, ofDigits]
  congr 1
  funext value digit
  simp only [digitValue, Nat.cast_id]
  omega

/-- Characters are the digits of a number if there is one, all of them are digits, and they add up
to it. -/
theorem areDigitsOf_iff : AreDigitsOf number digits ↔
    ¬ (digits.isEmpty || !digits.all Char.isDigit) = true ∧ ofDigits digits = number := by
  have sound : ¬ (digits.isEmpty || !digits.all Char.isDigit) = true ↔
      digits ≠ [] ∧ ∀ digit ∈ digits, digit.isDigit = true := by
    simp
  rw [sound, ofDigits_eq]
  constructor
  · exact fun written => ⟨⟨written.nonempty, written.decimal⟩, written.value⟩
  · exact fun ⟨⟨nonempty, decimal⟩, value⟩ => ⟨nonempty, decimal, value⟩

/-- A sign is no digit. -/
theorem not_areDigitsOf_plus : ¬ AreDigitsOf number ('+' :: digits) :=
  fun written => absurd (written.decimal '+' List.mem_cons_self) (by decide)

/-- A sign is no digit, so what a text writes stands behind the sign if there is one. -/
theorem writesNatural_iff :
    WritesNatural text number ↔ AreDigitsOf number (behindSign text.toList) := by
  unfold WritesNatural behindSign
  split
  · next rest plus =>
    rw [plus]
    constructor
    · rintro (whole | ⟨digits, same, written⟩)
      · exact absurd whole not_areDigitsOf_plus
      · rwa [(List.cons.inj same).2]
    · exact fun written => .inr ⟨rest, rfl, written⟩
  · next unsigned =>
    constructor
    · rintro (whole | ⟨digits, plus, -⟩)
      · exact whole
      · exact absurd plus (unsigned digits)
    · exact .inl

/-- A text writes one number at most, with a sign or without. -/
theorem WritesNatural.unique {other : Nat} (first : WritesNatural text number)
    (second : WritesNatural text other) : number = other :=
  (writesNatural_iff.mp first).value.symm.trans (writesNatural_iff.mp second).value

/-- A text is parsed behind its sign: without digits it is nothing, and beyond 64 bits neither. -/
theorem parseUnsigned64?_eq (text : String) : parseUnsigned64? text =
    let digits := behindSign text.toList
    if digits.isEmpty || !digits.all Char.isDigit then none
    else if ofDigits digits < Nat.pow 2 64 then some (UInt64.ofNat (ofDigits digits)) else none :=
  rfl

/-- A number of 64 bits is read where a text writes it, and nothing else is read. A number that fits
is that of its word, so none is wrapped. -/
theorem parseUnsigned64?_eq_some_iff :
    parseUnsigned64? text = some value ↔ WritesNatural text value.toNat := by
  rw [writesNatural_iff, areDigitsOf_iff, parseUnsigned64?_eq]
  generalize behindSign text.toList = digits
  dsimp only
  split
  · next unsound => simp [unsound]
  · next sound =>
    rw [and_iff_right sound]
    constructor
    · intro read
      split at read
      · next small =>
        rw [← Option.some.inj read]
        exact (UInt64.toNat_ofNat_of_lt' small).symm
      · cases read
    · intro same
      rw [if_pos (same ▸ value.toNat_lt), same, UInt64.ofNat_toNat]

/-- The greatest number is read, and the one behind it is not taken for zero. -/
example : parseUnsigned64? "+18446744073709551615" = some 18446744073709551615 ∧
    parseUnsigned64? "18446744073709551616" = none := by
  decide +kernel

end Gatehouse.Text
