import Gatehouse.Json.Lexeme
import Gatehouse.Proofs.Json.Canonical
import Gatehouse.Proofs.Result

/-!
# Reading back integers

An integer is written as its decimal digits, the first of which is no zero unless it is
the only one. The scanner takes exactly these digits where no digit, point or exponent
follows them, and the value of the numeral is the integer, up to both limits of the
64-bit range.
-/

namespace Gatehouse.Json.Numeral

/-- Nothing at the front of a text could belong to a numeral that ends before it. -/
def EndsNumeral : List Char → Prop
  | [] => True
  | first :: _ => isDigit first = false ∧ first ≠ '.' ∧ first ≠ 'e' ∧ first ≠ 'E'

/-- The decimal digits of a number. -/
def digits (value : Nat) : List Char := Nat.toDigits 10 value

/-- The characters of a number are digits. -/
theorem isDigit_of_mem_digits {value : Nat} {digit : Char} (inside : digit ∈ digits value) :
    isDigit digit = true := by
  have decimal : digit.isDigit = true :=
    Nat.isDigit_of_mem_toDigits (by decide) (by decide) inside
  simp only [Char.isDigit, Bool.and_eq_true, decide_eq_true_eq] at decimal
  simp only [isDigit, Bool.and_eq_true, decide_eq_true_eq]
  exact decimal

/-- Every number has a digit, and zero has one too. -/
theorem digits_ne_nil (value : Nat) : digits value ≠ [] := Nat.toDigits_ne_nil

/-- A number above nine ends with its last digit, in front of which stand those of its tenth part.
This is the step of an induction over digits. -/
theorem digits_of_ten_le {value : Nat} (large : 10 ≤ value) :
    digits value = digits (value / 10) ++ [Nat.digitChar (value % 10)] :=
  Nat.toDigits_of_base_le (by decide) large

/-- A number above zero does not begin with a zero, so its text is a numeral as a reader wants
it. -/
theorem head?_digits {value : Nat} (positive : 0 < value) : (digits value).head? ≠ some '0' := by
  induction value using Nat.strongRecOn with
  | ind value inductionHypothesis =>
    -- The head digit is that of the value without its last digit, down to a single digit.
    by_cases small : value < 10
    · have single : ∀ value, value < 10 → 0 < value → (digits value).head? ≠ some '0' := by decide
      exact single value small positive
    · have shorter := inductionHypothesis (value / 10) (by omega) (by omega)
      obtain ⟨first, behind, front⟩ := List.exists_cons_of_ne_nil (digits_ne_nil (value / 10))
      rw [digits_of_ten_le (by omega), front]
      rwa [front] at shorter

/-- The digits of a number are a whole part: there is one, and no other follows a leading zero. They
are all taken, because what follows is no digit. -/
theorem scanWhole_digits {value : Nat} {rest : List Char} (ends : EndsNumeral rest) :
    scanWhole (digits value ++ rest) = .ok (digits value, rest) := by
  have front : (digits value ++ rest).takeWhile isDigit = digits value := by
    rw [List.takeWhile_append_of_pos fun digit inside => isDigit_of_mem_digits inside]
    cases rest with
    | nil => simp
    | cons first behind => simp [ends.1]
  have back : (digits value ++ rest).dropWhile isDigit = rest := by
    rw [List.dropWhile_append_of_pos fun digit inside => isDigit_of_mem_digits inside]
    cases rest with
    | nil => rfl
    | cons first behind => simp [ends.1]
  simp only [scanWhole, spanDigits, front, back]
  split
  · next none => exact absurd none (digits_ne_nil value)
  -- A leading zero in front of a further digit is refused, but no number has one.
  · next zero behind more leading =>
    by_cases positive : 0 < value
    · exact absurd (by rw [leading]; rfl) (head?_digits positive)
    · obtain rfl : value = 0 := by omega
      have zero : digits 0 = ['0'] := rfl
      simp [zero] at leading
  · rfl

/-- No fraction begins where a numeral ends. -/
theorem scanFraction_of_ends {rest : List Char} (ends : EndsNumeral rest) :
    scanFraction rest = .ok (none, rest) := by
  cases rest with
  | nil => rfl
  | cons first behind =>
    unfold scanFraction
    split
    · next same =>
      rw [List.cons.injEq] at same
      exact absurd same.1 ends.2.1
    · rfl

/-- No exponent begins where a numeral ends. -/
theorem scanExponent_of_ends {rest : List Char} (ends : EndsNumeral rest) :
    scanExponent rest = .ok (none, rest) := by
  cases rest with
  | nil => rfl
  | cons first behind =>
    have noLetter : ¬ (first = 'e' ∨ first = 'E') := not_or.mpr ⟨ends.2.2.1, ends.2.2.2⟩
    simp only [scanExponent, if_neg noLetter]

/-- The scanner takes the digits of a number, and finds no fraction or exponent. -/
theorem scan_digits (negative : Bool) {value : Nat} {rest : List Char} (ends : EndsNumeral rest) :
    scan negative (digits value ++ rest) = .ok (⟨negative, digits value, none, none⟩, rest) := by
  simp only [scan, scanWhole_digits ends, bind, Except.bind, scanFraction_of_ends ends,
    scanExponent_of_ends ends, pure, Except.pure]

section

variable {characters left rest : List Char}

/-- What stands behind the end of a numeral does not change the digits in front of it. By induction
on the characters: only at their end could it matter, and there no digit follows. -/
theorem spanDigits_append (ends : EndsNumeral rest) (characters : List Char) :
    spanDigits (characters ++ rest) =
      ((spanDigits characters).1, (spanDigits characters).2 ++ rest) := by
  induction characters with
  | nil =>
    cases rest with
    | nil => rfl
    | cons first behind => simp [spanDigits, ends.1]
  | cons first behind inductionHypothesis =>
    simp only [spanDigits, List.cons_append, List.takeWhile_cons, List.dropWhile_cons,
      Prod.mk.injEq] at inductionHypothesis ⊢
    split
    · exact ⟨congrArg (first :: ·) inductionHypothesis.1, inductionHypothesis.2⟩
    · exact ⟨rfl, rfl⟩

/-- A whole part that is scanned in front of nothing is scanned in front of the end of a numeral. -/
theorem scanWhole_append (ends : EndsNumeral rest) {digits : List Char}
    (scanned : scanWhole characters = .ok (digits, left)) :
    scanWhole (characters ++ rest) = .ok (digits, left ++ rest) := by
  simp only [scanWhole, spanDigits_append ends] at scanned ⊢
  split at scanned
  · cases scanned
  · cases scanned
  · obtain ⟨rfl, rfl⟩ := Prod.mk.inj (Except.ok.inj scanned)
    rfl

/-- So is a fraction, whether there is one or not. -/
theorem scanFraction_append (ends : EndsNumeral rest) {digits : Option (List Char)}
    (scanned : scanFraction characters = .ok (digits, left)) :
    scanFraction (characters ++ rest) = .ok (digits, left ++ rest) := by
  unfold scanFraction at scanned
  split at scanned
  · next behind =>
    simp only [List.cons_append, scanFraction, spanDigits_append ends] at scanned ⊢
    split at scanned
    · cases scanned
    · next some =>
      obtain ⟨rfl, rfl⟩ := Prod.mk.inj (Except.ok.inj scanned)
      rw [if_neg some]
  · next noPoint =>
    obtain ⟨rfl, rfl⟩ := Prod.mk.inj (Except.ok.inj scanned)
    cases characters with
    | nil => exact scanFraction_of_ends ends
    | cons first behind =>
      unfold scanFraction
      split
      · next same => exact absurd (List.cons.inj same).1 fun point => noPoint behind (by rw [point])
      · rfl

/-- The sign of an exponent is the first character, so it is there without what follows. -/
theorem scanSign_append {first : Char} (behind rest : List Char) :
    scanSign (first :: behind ++ rest) =
      ((scanSign (first :: behind)).1, (scanSign (first :: behind)).2 ++ rest) := by
  rw [List.cons_append]
  unfold scanSign
  split <;> simp_all

/-- So is an exponent, with its sign and its digits. -/
theorem scanExponent_append (ends : EndsNumeral rest) {exponent : Option (Bool × List Char)}
    (scanned : scanExponent characters = .ok (exponent, left)) :
    scanExponent (characters ++ rest) = .ok (exponent, left ++ rest) := by
  cases characters with
  | nil =>
    obtain ⟨rfl, rfl⟩ := Prod.mk.inj (Except.ok.inj scanned)
    exact scanExponent_of_ends ends
  | cons letter behind =>
    rw [List.cons_append]
    unfold scanExponent at scanned ⊢
    dsimp only at scanned ⊢
    split at scanned
    · next isLetter =>
      rw [if_pos isLetter]
      cases behind with
      -- A letter alone is no exponent.
      | nil => cases scanned
      | cons first behind =>
        rw [scanSign_append]
        simp only [spanDigits_append ends] at scanned ⊢
        split at scanned
        · cases scanned
        · next some =>
          obtain ⟨rfl, rfl⟩ := Prod.mk.inj (Except.ok.inj scanned)
          rw [if_neg some]
    · next noLetter =>
      rw [if_neg noLetter]
      obtain ⟨rfl, rfl⟩ := Prod.mk.inj (Except.ok.inj scanned)
      rfl

/-- A numeral is scanned alike whatever follows it, if that could not belong to a numeral. -/
theorem scan_append (ends : EndsNumeral rest) {negative : Bool} {numeral : Numeral}
    (scanned : scan negative characters = .ok (numeral, left)) :
    scan negative (characters ++ rest) = .ok (numeral, left ++ rest) := by
  obtain ⟨⟨whole, behindWhole⟩, first, scanned⟩ := ok_of_bind scanned
  obtain ⟨⟨fraction, behindFraction⟩, second, scanned⟩ := ok_of_bind scanned
  obtain ⟨⟨exponent, behindExponent⟩, third, scanned⟩ := ok_of_bind scanned
  obtain ⟨rfl, rfl⟩ := Prod.mk.inj (Except.ok.inj scanned)
  simp only [scan, scanWhole_append ends first, scanFraction_append ends second,
    scanExponent_append ends third, bind, Except.bind, pure, Except.pure]

end

/-- Further digits make a value no smaller, each of them multiplying it by ten before it is
added. -/
theorem le_ofDigitChars (significand : Nat) (digits : List Char) :
    significand ≤ Nat.ofDigitChars 10 digits significand := by
  induction digits generalizing significand with
  | nil => simp
  | cons digit digits inductionHypothesis =>
    rw [Nat.ofDigitChars_cons]
    have further := inductionHypothesis (10 * significand + (digit.toNat - '0'.toNat))
    omega

/-- Digits are all taken as long as their value fits 64 bits. By induction on the digits: the value
up to each of them fits if the whole does. -/
theorem gather_eq {significand : Nat} {digits : List Char}
    (small : Nat.ofDigitChars 10 digits significand < Nat.pow 2 64) :
    gather significand digits = (Nat.ofDigitChars 10 digits significand, 0) := by
  induction digits generalizing significand with
  | nil => simp [gather]
  | cons digit digits inductionHypothesis =>
    have next : significand * 10 + digitValue digit =
        10 * significand + (digit.toNat - '0'.toNat) := by
      rw [Nat.mul_comm]
      rfl
    rw [Nat.ofDigitChars_cons] at small ⊢
    have fits := Nat.lt_of_le_of_lt (le_ofDigitChars _ digits) small
    simp only [gather, next]
    rw [if_pos fits, inductionHypothesis small]

/-- The value of the digits of a number without a sign. -/
theorem value?_digits {value : Nat} (small : value < Nat.pow 2 64) :
    value? ⟨false, digits value, none, none⟩ = some (.integer value) := by
  have whole : Nat.ofDigitChars 10 (digits value) 0 = value := Nat.ofDigitChars_ten_toDigits
  have gathered : gather 0 (digits value) = (value, 0) := by
    rw [gather_eq (by rwa [whole]), whole]
  simp [value?, gathered]

/-- The value of the digits of a number behind a minus sign. Zero behind one is no integer. -/
theorem value?_negative_digits {value : Nat} (positive : 0 < value) (small : value ≤ Nat.pow 2 63) :
    value? ⟨true, digits value, none, none⟩ = some (.integer (-value)) := by
  have whole : Nat.ofDigitChars 10 (digits value) 0 = value := Nat.ofDigitChars_ten_toDigits
  have fits : value < Nat.pow 2 64 := Nat.lt_of_le_of_lt small (by decide)
  have gathered : gather 0 (digits value) = (value, 0) := by
    rw [gather_eq (by rwa [whole]), whole]
  simp only [value?, gathered]
  rw [if_pos trivial, if_neg (not_not_intro trivial), if_pos ⟨positive, small⟩]

end Gatehouse.Json.Numeral

namespace Gatehouse.Json.Lexeme

open Numeral

/-- The digits of a number that fits are the lexeme of that number. -/
theorem scanNumber_digits {value : Nat} (small : value < Nat.pow 2 64) {rest : List Char}
    (ends : EndsNumeral rest) :
    scanNumber false (digits value ++ rest) = (.number (some (.integer value)), rest) := by
  simp only [scanNumber, scan_digits false ends, value?_digits small]

/-- The lexeme of a number is the same whatever follows, if that could not belong to a number. -/
theorem scanNumber_append {characters left rest : List Char} (ends : EndsNumeral rest)
    {negative : Bool} {number : Number}
    (scanned : scanNumber negative characters = (.number (some number), left)) :
    scanNumber negative (characters ++ rest) = (.number (some number), left ++ rest) := by
  unfold scanNumber at scanned
  split at scanned
  · next numeral behind found =>
    obtain ⟨same, rfl⟩ := Prod.mk.inj scanned
    rw [scanNumber, scan_append ends found]
    simp only [same]
  · cases scanned

/-- Behind a minus sign they are the lexeme of its negative, as far down as that fits. -/
theorem scanNumber_negative_digits {value : Nat} (positive : 0 < value)
    (small : value ≤ Nat.pow 2 63) {rest : List Char} (ends : EndsNumeral rest) :
    scanNumber true (digits value ++ rest) = (.number (some (.integer (-value))), rest) := by
  simp only [scanNumber, scan_digits true ends, value?_negative_digits positive small]

end Gatehouse.Json.Lexeme
