import Gatehouse.Text.Utf8

/-!
# Reading back the octets of a text

The octets of a text are those of its characters, one after another. The step of the
reader takes exactly the octets of one character and gives that character, in each of
the four lengths a character may have, so strict reading gives the whole text back.

It reads nothing else: wherever the step gives a character, it has taken the octets of
that character, so octets that are read as a text are the octets of that text.
-/

namespace Gatehouse.Text.Utf8

/-- A text of some characters is encoded as these are, one after another. -/
theorem encode_ofList (characters : List Char) :
    encode (String.ofList characters) = characters.flatMap String.utf8EncodeChar := by
  simp [encode, List.utf8Encode]

/-- There is nothing in an empty text to encode. -/
@[simp] theorem encode_empty : encode "" = [] :=
  encode_ofList []

/-- An octet with six bits is taken where its range allows it; the ones behind it may be any that
follow. -/
theorem follow_cons {value following low high bits : Nat} {rest : List UInt8}
    (range : bits < 64) (above : low ≤ bits + 0x80) (below : bits + 0x80 ≤ high) :
    follow value (following + 1) low high (UInt8.ofNat (bits + 0x80) :: rest) =
      follow (value * 64 + bits) following 0x80 0xBF rest := by
  have octet : (UInt8.ofNat (bits + 0x80)).toNat = bits + 0x80 :=
    UInt8.toNat_ofNat_of_lt' (show bits + 0x80 < 256 by omega)
  rw [follow, octet]
  rw [if_neg (by omega), if_pos ⟨above, below⟩, Nat.add_sub_cancel, Nat.add_sub_cancel]

/-- Where no octet is missing, the value is complete. -/
theorem follow_zero (value low high : Nat) (rest : List UInt8) :
    follow value 0 low high rest = (some value, rest) := by
  cases rest <;> simp [follow]

/-- The code of a character leaves out the surrogates and ends at the last character. -/
theorem code_valid (character : Char) :
    character.toNat < 0xD800 ∨ (0xDFFF < character.toNat ∧ character.toNat < 0x110000) :=
  character.valid

/-- The first of two octets, with the bits it carries. -/
theorem lead_two {bits : Nat} (above : 2 ≤ bits) (below : bits < 32) :
    lead (bits + 0xC0) = some ⟨bits, 1, 0x80, 0xBF⟩ := by
  simp only [lead]
  rw [if_pos (by omega), Nat.add_sub_cancel]

/-- The first of three octets. The range of the second one keeps overlong forms and surrogates
out, and nothing else. -/
theorem lead_three (bits second : Nat) (small : bits < 16) (notLong : bits = 0 → 0x20 ≤ second)
    (noSurrogate : bits = 13 → second < 0x20) (range : second < 64) :
    ∃ low high, lead (bits + 0xE0) = some ⟨bits, 2, low, high⟩ ∧
      low ≤ second + 0x80 ∧ second + 0x80 ≤ high := by
  simp only [lead]
  rw [if_neg (by omega)]
  by_cases zero : bits = 0
  · subst zero
    exact ⟨0xA0, 0xBF, rfl, by have := notLong rfl; omega, by omega⟩
  · rw [if_neg (by omega)]
    by_cases thirteen : bits = 13
    · subst thirteen
      exact ⟨0x80, 0x9F, rfl, by omega, by have := noSurrogate rfl; omega⟩
    · refine ⟨0x80, 0xBF, ?_, by omega, by omega⟩
      by_cases early : bits ≤ 12
      · rw [if_pos (by omega), Nat.add_sub_cancel]
      · rw [if_neg (by omega), if_neg (by omega), if_pos (by omega), Nat.add_sub_cancel]

/-- The first of four octets. The range of the second one keeps overlong forms and values past the
last character out, and nothing else. -/
theorem lead_four (bits second : Nat) (small : bits ≤ 4) (notLong : bits = 0 → 0x10 ≤ second)
    (notPast : bits = 4 → second < 0x10) (range : second < 64) :
    ∃ low high, lead (bits + 0xF0) = some ⟨bits, 3, low, high⟩ ∧
      low ≤ second + 0x80 ∧ second + 0x80 ≤ high := by
  simp only [lead]
  rw [if_neg (by omega), if_neg (by omega), if_neg (by omega), if_neg (by omega),
    if_neg (by omega)]
  by_cases zero : bits = 0
  · subst zero
    exact ⟨0x90, 0xBF, rfl, by have := notLong rfl; omega, by omega⟩
  · rw [if_neg (by omega)]
    by_cases four : bits = 4
    · subst four
      exact ⟨0x80, 0x8F, rfl, by omega, by have := notPast rfl; omega⟩
    · refine ⟨0x80, 0xBF, ?_, by omega, by omega⟩
      rw [if_pos (by omega), Nat.add_sub_cancel]

/-- The reader's step from a first octet above the ASCII range. -/
theorem step_of_lead {first bits following low high : Nat} {rest : List UInt8}
    (small : first < 256) (notAscii : 0x80 ≤ first)
    (found : lead first = some ⟨bits, following, low, high⟩) :
    step (UInt8.ofNat first) rest =
      ((follow bits following low high rest).1.map Char.ofNat,
        (follow bits following low high rest).2) := by
  have octet : (UInt8.ofNat first).toNat = first := UInt8.toNat_ofNat_of_lt' small
  simp only [step, octet, found]
  rw [if_neg (by omega)]

/-- The reader takes exactly the octets of one character, whatever follows them. By cases on how
many there are. -/
theorem pieces_utf8EncodeChar (character : Char) (rest : List UInt8) :
    pieces (String.utf8EncodeChar character ++ rest) = some character :: pieces rest := by
  have rebuilt : Char.ofNat character.toNat = character := Char.ofNat_toNat character
  have valid := code_valid character
  have code : character.val.toNat = character.toNat := rfl
  simp only [String.utf8EncodeChar, code]
  -- From here on only the code of the character counts; its size decides how many octets it has.
  generalize character.toNat = value at *
  split
  · next one =>
    have octet : (UInt8.ofNat value).toNat = value :=
      UInt8.toNat_ofNat_of_lt' (show value < 256 by omega)
    rw [List.singleton_append, pieces_cons]
    simp only [step, octet]
    rw [if_pos (by omega), rebuilt]
  · split
    · next two =>
      have whole : value / 64 % 32 * 64 + value % 64 = value := by omega
      simp only [List.cons_append, List.nil_append]
      rw [pieces_cons, step_of_lead (by omega) (by omega) (lead_two (by omega) (by omega)),
        follow_cons (by omega) (by omega) (by omega), follow_zero, whole]
      simp only [Option.map_some, rebuilt]
    · split
      · next three =>
        obtain ⟨low, high, found, above, below⟩ := lead_three (value / 4096 % 16)
          (value / 64 % 64) (by omega) (by omega) (by omega) (by omega)
        have whole : (value / 4096 % 16 * 64 + value / 64 % 64) * 64 + value % 64 = value := by
          omega
        simp only [List.cons_append, List.nil_append]
        rw [pieces_cons, step_of_lead (by omega) (by omega) found,
          follow_cons (by omega) above below, follow_cons (by omega) (by omega) (by omega),
          follow_zero, whole]
        simp only [Option.map_some, rebuilt]
      · next four =>
        obtain ⟨low, high, found, above, below⟩ := lead_four (value / 262144 % 8)
          (value / 4096 % 64) (by omega) (by omega) (by omega) (by omega)
        have whole : ((value / 262144 % 8 * 64 + value / 4096 % 64) * 64 + value / 64 % 64) * 64 +
            value % 64 = value := by omega
        simp only [List.cons_append, List.nil_append]
        rw [pieces_cons, step_of_lead (by omega) (by omega) found,
          follow_cons (by omega) above below, follow_cons (by omega) (by omega) (by omega),
          follow_cons (by omega) (by omega) (by omega), follow_zero, whole]
        simp only [Option.map_some, rebuilt]

/-- The octets of a text are read as its characters, none of them replaced. -/
theorem pieces_encode (text : String) : pieces (encode text) = text.toList.map some := by
  have general : ∀ characters : List Char,
      pieces (characters.flatMap String.utf8EncodeChar) = characters.map some := by
    intro characters
    induction characters with
    | nil => simp [pieces, piecesAfter]
    | cons character rest inductionHypothesis =>
      rw [List.flatMap_cons, pieces_utf8EncodeChar, inductionHypothesis, List.map_cons]
  rw [← general, ← encode_ofList, String.ofList_toList]

/-- Strict reading gives back every text that was written, as none of its pieces is missing. -/
theorem decode?_encode (text : String) : decode? (encode text) = some text := by
  have all : ∀ characters : List Char, (characters.map some).mapM id = some characters := by
    intro characters
    induction characters with
    | nil => rfl
    | cons character rest inductionHypothesis => simp [List.mapM_cons, inductionHypothesis]
  rw [decode?, pieces_encode, all, Option.map_some, String.ofList_toList]

/-- Texts with the same octets are equal, as they can be read back. -/
theorem encode_inj {first second : String} : encode first = encode second ↔ first = second := by
  constructor
  · intro same
    have read := congrArg decode? same
    rw [decode?_encode, decode?_encode] at read
    exact Option.some.inj read
  · exact congrArg encode

/-! ## Octets that were read -/

/-- The code of a character that was made from a valid code is that code. -/
theorem code_ofNat {code : Nat} (valid : code.isValidChar) :
    (Char.ofNat code).val.toNat = code := by
  rw [Char.ofNat, dif_pos valid]
  rfl

/-- Eleven bits that need more than one octet are those of a character of two. -/
theorem utf8EncodeChar_two {first second : Nat} (above : 2 ≤ first) (below : first < 32)
    (range : second < 64) :
    String.utf8EncodeChar (Char.ofNat (first * 64 + second)) =
      [UInt8.ofNat (first + 0xC0), UInt8.ofNat (second + 0x80)] := by
  have valid : (first * 64 + second).isValidChar := .inl (by omega)
  have high : (first * 64 + second) / 64 % 32 = first := by omega
  have low : (first * 64 + second) % 64 = second := by omega
  simp only [String.utf8EncodeChar, code_ofNat valid, high, low]
  rw [if_neg (by omega), if_pos (by omega)]

/-- Sixteen bits that need more than two octets, and stand for no surrogate, are those of a
character of three. -/
theorem utf8EncodeChar_three {first second third : Nat} (small : first < 16)
    (notLong : first = 0 → 0x20 ≤ second) (noSurrogate : first = 13 → second < 0x20)
    (range : second < 64) (thirdRange : third < 64) :
    String.utf8EncodeChar (Char.ofNat ((first * 64 + second) * 64 + third)) =
      [UInt8.ofNat (first + 0xE0), UInt8.ofNat (second + 0x80), UInt8.ofNat (third + 0x80)] := by
  have valid : ((first * 64 + second) * 64 + third).isValidChar := by
    unfold Nat.isValidChar
    omega
  have high : ((first * 64 + second) * 64 + third) / 4096 % 16 = first := by omega
  have middle : ((first * 64 + second) * 64 + third) / 64 % 64 = second := by omega
  have low : ((first * 64 + second) * 64 + third) % 64 = third := by omega
  simp only [String.utf8EncodeChar, code_ofNat valid, high, middle, low]
  rw [if_neg (by omega), if_neg (by omega), if_pos (by omega)]

/-- The bits of a code above sixteen bits, up to the last character, are those of a character of
four. -/
theorem utf8EncodeChar_four {first second third fourth : Nat} (small : first ≤ 4)
    (notLong : first = 0 → 0x10 ≤ second) (notPast : first = 4 → second < 0x10)
    (range : second < 64) (thirdRange : third < 64) (fourthRange : fourth < 64) :
    String.utf8EncodeChar (Char.ofNat (((first * 64 + second) * 64 + third) * 64 + fourth)) =
      [UInt8.ofNat (first + 0xF0), UInt8.ofNat (second + 0x80), UInt8.ofNat (third + 0x80),
        UInt8.ofNat (fourth + 0x80)] := by
  have valid : (((first * 64 + second) * 64 + third) * 64 + fourth).isValidChar := by
    unfold Nat.isValidChar
    omega
  have high : (((first * 64 + second) * 64 + third) * 64 + fourth) / 262144 % 8 = first := by
    omega
  have middle : (((first * 64 + second) * 64 + third) * 64 + fourth) / 4096 % 64 = second := by
    omega
  have next : (((first * 64 + second) * 64 + third) * 64 + fourth) / 64 % 64 = third := by omega
  have low : (((first * 64 + second) * 64 + third) * 64 + fourth) % 64 = fourth := by omega
  simp only [String.utf8EncodeChar, code_ofNat valid, high, middle, next, low]
  rw [if_neg (by omega), if_neg (by omega), if_neg (by omega)]

/-- What a lead says of the octet that it is for. -/
inductive Lead.Announces : Nat → Lead → Prop
  | two {bits : Nat} (above : 2 ≤ bits) (below : bits < 32) :
    Announces (bits + 0xC0) ⟨bits, 1, 0x80, 0xBF⟩
  | three {bits low high : Nat} (small : bits < 16) (notLong : bits = 0 → 0xA0 ≤ low)
    (noSurrogate : bits = 13 → high ≤ 0x9F) (above : 0x80 ≤ low) (below : high ≤ 0xBF) :
    Announces (bits + 0xE0) ⟨bits, 2, low, high⟩
  | four {bits low high : Nat} (small : bits ≤ 4) (notLong : bits = 0 → 0x90 ≤ low)
    (notPast : bits = 4 → high ≤ 0x8F) (above : 0x80 ≤ low) (below : high ≤ 0xBF) :
    Announces (bits + 0xF0) ⟨bits, 3, low, high⟩

/-- The table of leads has no other entries. -/
theorem announces_of_lead {octet : Nat} {found : Lead} (led : lead octet = some found) :
    found.Announces octet := by
  simp only [lead] at led
  -- One case for each row of the table, in its order.
  split at led
  · obtain ⟨bits, rfl⟩ : ∃ bits, octet = bits + 0xC0 := ⟨octet - 0xC0, by omega⟩
    rw [Nat.add_sub_cancel] at led
    obtain rfl := Option.some.inj led
    exact .two (by omega) (by omega)
  split at led
  · next first =>
    obtain rfl := first
    obtain rfl := Option.some.inj led
    exact .three (by decide) (fun _ => by decide) (by decide) (by decide) (by decide)
  split at led
  · obtain ⟨bits, rfl⟩ : ∃ bits, octet = bits + 0xE0 := ⟨octet - 0xE0, by omega⟩
    rw [Nat.add_sub_cancel] at led
    obtain rfl := Option.some.inj led
    exact .three (by omega) (by omega) (by omega) (by decide) (by decide)
  split at led
  · next thirteenth =>
    obtain rfl := thirteenth
    obtain rfl := Option.some.inj led
    exact .three (by decide) (by decide) (fun _ => by decide) (by decide) (by decide)
  split at led
  · obtain ⟨bits, rfl⟩ : ∃ bits, octet = bits + 0xE0 := ⟨octet - 0xE0, by omega⟩
    rw [Nat.add_sub_cancel] at led
    obtain rfl := Option.some.inj led
    exact .three (by omega) (by omega) (by omega) (by decide) (by decide)
  split at led
  · next first =>
    obtain rfl := first
    obtain rfl := Option.some.inj led
    exact .four (by decide) (fun _ => by decide) (by decide) (by decide) (by decide)
  split at led
  · obtain ⟨bits, rfl⟩ : ∃ bits, octet = bits + 0xF0 := ⟨octet - 0xF0, by omega⟩
    rw [Nat.add_sub_cancel] at led
    obtain rfl := Option.some.inj led
    exact .four (by omega) (by omega) (by omega) (by decide) (by decide)
  split at led
  · next last =>
    obtain rfl := last
    obtain rfl := Option.some.inj led
    exact .four (by decide) (by decide) (fun _ => by decide) (by decide) (by decide)
  · cases led

/-- An octet that was followed had six bits in its range. -/
theorem exists_of_follow {value following low high result : Nat} {octets left : List UInt8}
    (above : 0x80 ≤ low) (below : high ≤ 0xBF)
    (followed : follow value (following + 1) low high octets = (some result, left)) :
    ∃ bits rest, octets = UInt8.ofNat (bits + 0x80) :: rest ∧ bits < 64 ∧ low ≤ bits + 0x80 ∧
      bits + 0x80 ≤ high ∧
      follow (value * 64 + bits) following 0x80 0xBF rest = (some result, left) := by
  cases octets with
  | nil => simp [follow] at followed
  | cons octet rest =>
    rw [follow, if_neg (by omega), Nat.add_sub_cancel] at followed
    split at followed
    · next range =>
      have whole : octet.toNat - 0x80 + 0x80 = octet.toNat := by omega
      exact ⟨octet.toNat - 0x80, rest, by rw [whole, UInt8.ofNat_toNat], by omega, by omega,
        by omega, followed⟩
    · cases followed

/-- The reader takes nothing but the octets of the character that it gives. By cases on the lead,
with the bits of the octets that follow it. -/
theorem octets_of_step {octet : UInt8} {rest left : List UInt8} {character : Char}
    (taken : step octet rest = (some character, left)) :
    octet :: rest = String.utf8EncodeChar character ++ left := by
  unfold step at taken
  split at taken
  · next ascii =>
    obtain ⟨same, rfl⟩ := Prod.mk.inj taken
    obtain rfl := Option.some.inj same
    have valid : octet.toNat.isValidChar := .inl (by omega)
    simp only [String.utf8EncodeChar, code_ofNat valid]
    rw [if_pos (by omega), UInt8.ofNat_toNat, List.singleton_append]
  · split at taken
    · cases taken
    · next found led =>
      cases followed : follow found.bits found.following found.low found.high rest with
      | mk value behind =>
        rw [followed] at taken
        obtain ⟨mapped, rfl⟩ := Prod.mk.inj taken
        obtain ⟨code, rfl, rfl⟩ := Option.map_eq_some_iff.mp mapped
        have announced := announces_of_lead led
        generalize same : octet.toNat = value at announced
        have octetSame : octet = UInt8.ofNat value := by rw [← same, UInt8.ofNat_toNat]
        cases announced with
        | two above below =>
          obtain ⟨second, rest, rfl, range, -, -, followed⟩ :=
            exists_of_follow (Nat.le_refl _) (Nat.le_refl _) followed
          rw [follow_zero] at followed
          cases followed
          rw [utf8EncodeChar_two above below range, octetSame]
          rfl
        | three small notLong noSurrogate above below =>
          obtain ⟨second, rest, rfl, range, lower, upper, followed⟩ :=
            exists_of_follow above below followed
          obtain ⟨third, rest, rfl, thirdRange, -, -, followed⟩ :=
            exists_of_follow (Nat.le_refl _) (Nat.le_refl _) followed
          rw [follow_zero] at followed
          cases followed
          rw [utf8EncodeChar_three small (by omega) (by omega) range thirdRange, octetSame]
          rfl
        | four small notLong notPast above below =>
          obtain ⟨second, rest, rfl, range, lower, upper, followed⟩ :=
            exists_of_follow above below followed
          obtain ⟨third, rest, rfl, thirdRange, -, -, followed⟩ :=
            exists_of_follow (Nat.le_refl _) (Nat.le_refl _) followed
          obtain ⟨fourth, rest, rfl, fourthRange, -, -, followed⟩ :=
            exists_of_follow (Nat.le_refl _) (Nat.le_refl _) followed
          rw [follow_zero] at followed
          cases followed
          rw [utf8EncodeChar_four small (by omega) (by omega) range thirdRange fourthRange,
            octetSame]
          rfl

/-- Octets that are read as characters throughout are the octets of these characters. By induction
on the characters. -/
theorem octets_of_pieces {octets : List UInt8} {characters : List Char}
    (read : pieces octets = characters.map some) :
    octets = characters.flatMap String.utf8EncodeChar := by
  induction length : octets.length using Nat.strongRecOn generalizing octets characters with
  | ind size inductionHypothesis =>
    cases octets with
    | nil =>
      have none : characters.map some = [] := by rw [← read, pieces, piecesAfter]; rfl
      rw [List.map_eq_nil_iff.mp none, List.flatMap_nil]
    | cons octet rest =>
      rw [pieces_cons] at read
      cases characters with
      | nil => cases read
      | cons character behind =>
        obtain ⟨first, others⟩ := List.cons.inj read
        have taken : step octet rest = (some character, (step octet rest).2) := Prod.ext first rfl
        have shorter := step_length_le octet rest
        rw [List.length_cons] at length
        rw [octets_of_step taken, inductionHypothesis _ (by omega) others rfl, List.flatMap_cons]

/-- Strict reading gives a text for the octets of that text and for no others. -/
theorem decode?_eq_some_iff {octets : List UInt8} {text : String} :
    decode? octets = some text ↔ octets = encode text := by
  constructor
  · intro decoded
    obtain ⟨characters, all, rfl⟩ := Option.map_eq_some_iff.mp decoded
    have whole : ∀ (found : List (Option Char)) (characters : List Char),
        found.mapM id = some characters → found = characters.map some := by
      intro found
      induction found with
      | nil =>
        intro characters all
        obtain rfl := Option.some.inj all
        rfl
      | cons first rest inductionHypothesis =>
        intro characters all
        rw [List.mapM_cons] at all
        obtain ⟨character, here, continued⟩ := Option.bind_eq_some_iff.mp all
        obtain ⟨others, behind, ended⟩ := Option.bind_eq_some_iff.mp continued
        obtain rfl := Option.some.inj ended
        have here : first = some character := here
        rw [here, inductionHypothesis others behind, List.map_cons]
    rw [encode_ofList]
    exact octets_of_pieces (whole _ _ all)
  · rintro rfl
    exact decode?_encode text

end Gatehouse.Text.Utf8
