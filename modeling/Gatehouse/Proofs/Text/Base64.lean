import Gatehouse.Text.Base64

/-!
# Base64 has one text for each list of octets

Reading what was written gives the octets back, and nothing else is read as those
octets: padding, a foreign digit, a lone last digit and leftover bits that are not zero
are all refused. The first half needs an alphabet whose digits are told apart; the
second half holds for every alphabet.
-/

namespace Gatehouse.Text.Base64

variable {alphabet : Alphabet}

/-- Every value below 64 has a digit of its own. -/
def Alphabet.Faithful (alphabet : Alphabet) : Prop :=
  ∀ value, value < 64 → alphabet.value? (alphabet.digit value) = some value

/-- The alphabet for URLs tells its digits apart. -/
theorem Alphabet.url_faithful : Alphabet.url.Faithful := by
  unfold Alphabet.Faithful
  decide

/-- A digit has a value below 64, and it is the digit of that value. -/
theorem Alphabet.digit_of_value? {character : Char} {value : Nat}
    (read : alphabet.value? character = some value) :
    value < 64 ∧ alphabet.digit value = character := by
  have rebuilt : Char.ofNat character.toNat = character := Char.ofNat_toNat character
  simp only [Alphabet.value?] at read
  unfold Alphabet.digit
  split at read
  · next upper =>
    obtain rfl := Option.some.inj read
    refine ⟨by omega, ?_⟩
    rw [if_pos (by omega), show 65 + (character.toNat - 65) = character.toNat by omega, rebuilt]
  · split at read
    · next lower =>
      obtain rfl := Option.some.inj read
      refine ⟨by omega, ?_⟩
      rw [if_neg (by omega), if_pos (by omega),
        show 71 + (character.toNat - 71) = character.toNat by omega, rebuilt]
    · split at read
      · next decimal =>
        obtain rfl := Option.some.inj read
        refine ⟨by omega, ?_⟩
        rw [if_neg (by omega), if_neg (by omega), if_pos (by omega),
          show character.toNat + 4 - 4 = character.toNat by omega, rebuilt]
      · split at read
        · next last =>
          obtain rfl := Option.some.inj read
          exact ⟨by decide, last.symm⟩
        · split at read
          · next last =>
            obtain rfl := Option.some.inj read
            exact ⟨by decide, last.symm⟩
          · simp at read

/-- Reading the digits of octets gives the octets back, whatever their number is. Three octets are
four digits; one or two at the end are two or three, with spare bits that are zero. -/
theorem decodeChars?_encodeChars (faithful : alphabet.Faithful) (octets : List UInt8) :
    decodeChars? alphabet (encodeChars alphabet octets) = some octets := by
  fun_induction encodeChars alphabet octets with
  | case1 => rfl
  | case2 a bits =>
    have bound : a.toNat < 256 := a.toNat_lt
    have whole : bits / 64 * 64 + bits % 64 = bits := by omega
    have first : bits / 16 = a.toNat := by omega
    simp [decodeChars?, faithful (bits / 64) (by omega), faithful (bits % 64) (by omega), whole,
      first, show bits % 16 = 0 by omega]
  | case3 a b bits =>
    have boundA : a.toNat < 256 := a.toNat_lt
    have boundB : b.toNat < 256 := b.toNat_lt
    have whole : (bits / 4096 * 64 + bits / 64 % 64) * 64 + bits % 64 = bits := by omega
    have first : bits / 1024 = a.toNat := by omega
    have second : bits / 4 % 256 = b.toNat := by omega
    simp [decodeChars?, faithful (bits / 4096) (by omega), faithful (bits / 64 % 64) (by omega),
      faithful (bits % 64) (by omega), whole, first, second, show bits % 4 = 0 by omega]
  | case4 a b c rest bits inductionHypothesis =>
    have boundA : a.toNat < 256 := a.toNat_lt
    have boundB : b.toNat < 256 := b.toNat_lt
    have boundC : c.toNat < 256 := c.toNat_lt
    -- Four digits are put together to the 24 bits, which fall into the three octets again.
    have whole : ((bits / 262144 * 64 + bits / 4096 % 64) * 64 + bits / 64 % 64) * 64 + bits % 64 =
        bits := by omega
    have first : bits / 65536 = a.toNat := by omega
    have second : bits / 256 % 256 = b.toNat := by omega
    have third : bits % 256 = c.toNat := by omega
    simp [decodeChars?, faithful (bits / 262144) (by omega), faithful (bits / 4096 % 64) (by omega),
      faithful (bits / 64 % 64) (by omega), faithful (bits % 64) (by omega), whole, first, second,
      third, inductionHypothesis]

/-- Digits that are read at all are those that the octets are written with, since spare bits have to
be zero. -/
theorem encodeChars_of_decodeChars? {digits : List Char} {octets : List UInt8}
    (read : decodeChars? alphabet digits = some octets) :
    encodeChars alphabet octets = digits := by
  fun_induction decodeChars? alphabet digits generalizing octets with
  | case1 =>
    obtain rfl := Option.some.inj read
    rfl
  | case2 => simp at read
  | case3 a b =>
    simp only [Option.bind_eq_bind, Option.bind_eq_some_iff] at read
    obtain ⟨x, readA, y, readB, read⟩ := read
    obtain ⟨boundX, rfl⟩ := Alphabet.digit_of_value? readA
    obtain ⟨boundY, rfl⟩ := Alphabet.digit_of_value? readB
    -- Only digits whose four spare bits are zero are read.
    split at read
    · next clear =>
      obtain rfl := Option.some.inj read
      rw [encodeChars, UInt8.toNat_ofNat_of_lt' (show _ < 256 by omega),
        show (x * 64 + y) / 16 * 16 / 64 = x by omega,
        show (x * 64 + y) / 16 * 16 % 64 = y by omega]
    · simp at read
  | case4 a b c =>
    simp only [Option.bind_eq_bind, Option.bind_eq_some_iff] at read
    obtain ⟨x, readA, y, readB, z, readC, read⟩ := read
    obtain ⟨boundX, rfl⟩ := Alphabet.digit_of_value? readA
    obtain ⟨boundY, rfl⟩ := Alphabet.digit_of_value? readB
    obtain ⟨boundZ, rfl⟩ := Alphabet.digit_of_value? readC
    split at read
    · next clear =>
      obtain rfl := Option.some.inj read
      rw [encodeChars, UInt8.toNat_ofNat_of_lt' (show _ < 256 by omega),
        UInt8.toNat_ofNat_of_lt' (show _ < 256 by omega)]
      have whole : (((x * 64 + y) * 64 + z) / 1024 * 256 + ((x * 64 + y) * 64 + z) / 4 % 256) * 4 =
          (x * 64 + y) * 64 + z := by omega
      simp only [whole]
      rw [show ((x * 64 + y) * 64 + z) / 4096 = x by omega,
        show ((x * 64 + y) * 64 + z) / 64 % 64 = y by omega,
        show ((x * 64 + y) * 64 + z) % 64 = z by omega]
    · simp at read
  | case5 a b c d rest inductionHypothesis =>
    simp only [Option.bind_eq_bind, Option.bind_eq_some_iff] at read
    obtain ⟨x, readA, y, readB, z, readC, w, readD, behind, readRest, read⟩ := read
    obtain ⟨boundX, rfl⟩ := Alphabet.digit_of_value? readA
    obtain ⟨boundY, rfl⟩ := Alphabet.digit_of_value? readB
    obtain ⟨boundZ, rfl⟩ := Alphabet.digit_of_value? readC
    obtain ⟨boundW, rfl⟩ := Alphabet.digit_of_value? readD
    obtain rfl := Option.some.inj read
    rw [encodeChars, inductionHypothesis readRest, UInt8.toNat_ofNat_of_lt' (show _ < 256 by omega),
      UInt8.toNat_ofNat_of_lt' (show _ < 256 by omega),
      UInt8.toNat_ofNat_of_lt' (show _ < 256 by omega)]
    generalize bits : ((x * 64 + y) * 64 + z) * 64 + w = whole
    have joined : (whole / 65536 * 256 + whole / 256 % 256) * 256 + whole % 256 = whole := by omega
    simp only [joined]
    rw [show whole / 262144 = x by omega, show whole / 4096 % 64 = y by omega,
      show whole / 64 % 64 = z by omega, show whole % 64 = w by omega]

/-- Two texts that are read as the same octets are the same text. So no octets have a second
spelling. -/
theorem decodeChars?_injective {first second : List Char} {octets : List UInt8}
    (readFirst : decodeChars? alphabet first = some octets)
    (readSecond : decodeChars? alphabet second = some octets) : first = second := by
  rw [← encodeChars_of_decodeChars? readFirst, ← encodeChars_of_decodeChars? readSecond]

/-- Octets are written with digits of the alphabet only. -/
theorem digit_of_mem {octets : List UInt8} {character : Char}
    (member : character ∈ encodeChars alphabet octets) :
    ∃ value, value < 64 ∧ alphabet.digit value = character := by
  fun_induction encodeChars alphabet octets with
  | case1 => simp at member
  | case2 a bits =>
    have bound : a.toNat < 256 := a.toNat_lt
    simp only [List.mem_cons, List.not_mem_nil, or_false] at member
    rcases member with rfl | rfl
    · exact ⟨bits / 64, by omega, rfl⟩
    · exact ⟨bits % 64, by omega, rfl⟩
  | case3 a b bits =>
    have boundA : a.toNat < 256 := a.toNat_lt
    have boundB : b.toNat < 256 := b.toNat_lt
    simp only [List.mem_cons, List.not_mem_nil, or_false] at member
    rcases member with rfl | rfl | rfl
    · exact ⟨bits / 4096, by omega, rfl⟩
    · exact ⟨bits / 64 % 64, by omega, rfl⟩
    · exact ⟨bits % 64, by omega, rfl⟩
  | case4 a b c rest bits inductionHypothesis =>
    have boundA : a.toNat < 256 := a.toNat_lt
    have boundB : b.toNat < 256 := b.toNat_lt
    have boundC : c.toNat < 256 := c.toNat_lt
    simp only [List.mem_cons] at member
    rcases member with rfl | rfl | rfl | rfl | member
    · exact ⟨bits / 262144, by omega, rfl⟩
    · exact ⟨bits / 4096 % 64, by omega, rfl⟩
    · exact ⟨bits / 64 % 64, by omega, rfl⟩
    · exact ⟨bits % 64, by omega, rfl⟩
    · exact inductionHypothesis member

/-- A point is no digit of the alphabet for URLs, so it can stand between texts in it. -/
theorem point_not_mem_encodeChars (octets : List UInt8) : '.' ∉ encodeChars .url octets := by
  intro member
  obtain ⟨value, small, same⟩ := digit_of_mem member
  have other : ∀ value, value < 64 → Alphabet.url.digit value ≠ '.' := by decide
  exact other value small same

end Gatehouse.Text.Base64
