import Gatehouse.Json.Fault

/-!
# Numerals

The grammar of a JSON number and the value of one. A numeral without fraction and
exponent whose magnitude fits 64 bits is an integer; all others are floating point
numbers, computed from a 64-bit significand and a power of ten with one rounding
each. Digits past the significand count as zeros before the point and are dropped
behind it. A numeral too large for a finite number has no value.
-/

namespace Gatehouse.Json

/-- The parts of a numeral, each as its digits. -/
structure Numeral where
  negative : Bool
  whole : List Char
  fraction : Option (List Char)
  exponent : Option (Bool × List Char)
deriving DecidableEq, Repr

namespace Numeral

/-- Whether a character is a decimal digit. -/
def isDigit (character : Char) : Bool := '0' ≤ character && character ≤ '9'

/-- The value of a decimal digit. -/
def digitValue (character : Char) : Nat := character.toNat - 48

/-- The digits in front of a text and what follows them. -/
def spanDigits (characters : List Char) : List Char × List Char :=
  (characters.takeWhile isDigit, characters.dropWhile isDigit)

/-- Two readings of one text: the first one takes the value of the numeral, the second one only
passes over it. They differ in how they see a numeral cut off by the end of the text. -/
structure Failure where
  strict : Fault
  lenient : Fault
deriving DecidableEq, Repr

/-- A character that does not fit is an error of the grammar in both readings. The end of the text
is an early end only where the value is wanted. -/
def Failure.before (rest : List Char) : Failure :=
  if rest.isEmpty then ⟨.truncated, .malformed⟩ else ⟨.malformed, .malformed⟩

/-- The whole part: no digit follows a leading zero. -/
def scanWhole (characters : List Char) : Except Failure (List Char × List Char) :=
  let (digits, rest) := spanDigits characters
  match digits with
  | [] => .error (.before rest)
  | '0' :: _ :: _ => .error ⟨.malformed, .malformed⟩
  | _ => .ok (digits, rest)

/-- The fraction, if a point begins one. -/
def scanFraction (characters : List Char) : Except Failure (Option (List Char) × List Char) :=
  match characters with
  | '.' :: behind =>
    let (digits, rest) := spanDigits behind
    if digits.isEmpty then .error (.before rest) else .ok (some digits, rest)
  | _ => .ok (none, characters)

/-- A sign, and what follows it. -/
def scanSign (characters : List Char) : Bool × List Char :=
  match characters with
  | '-' :: rest => (true, rest)
  | '+' :: rest => (false, rest)
  | _ => (false, characters)

/-- The exponent, if its letter begins one. -/
def scanExponent (characters : List Char) :
    Except Failure (Option (Bool × List Char) × List Char) :=
  match characters with
  | letter :: behind =>
    if letter = 'e' ∨ letter = 'E' then
      let (negative, behind) := scanSign behind
      let (digits, rest) := spanDigits behind
      if digits.isEmpty then .error (.before rest) else .ok (some (negative, digits), rest)
    else .ok (none, characters)
  | [] => .ok (none, [])

/-- A numeral behind its sign. -/
def scan (negative : Bool) (characters : List Char) : Except Failure (Numeral × List Char) := do
  let (whole, rest) ← scanWhole characters
  let (fraction, rest) ← scanFraction rest
  let (exponent, rest) ← scanExponent rest
  return (⟨negative, whole, fraction, exponent⟩, rest)

/-- Append digits to a significand as long as it stays below `2 ^ 64`: the significand, and how
many digits were not taken. -/
def gather (significand : Nat) : List Char → Nat × Nat
  | [] => (significand, 0)
  | digit :: digits =>
    let next := significand * 10 + digitValue digit
    if next < Nat.pow 2 64 then gather next digits else (significand, digits.length + 1)

/-- The number nearest to a power of ten that is finite. -/
def powerOfTen (power : Nat) : Binary64 :=
  (Binary64.ofNat? (Nat.pow 10 power)).getD (.zero false)

/-- The largest power of ten that one multiplication or division takes. -/
def largestStep : Nat := 308

/-- A number times a power of ten. A power too small for one division is taken in steps, and the
fuel covers every number that a significand of 64 bits gives before it turns to zero. -/
def scaleByTen (number : Binary64) (exponent : Int) : Nat → Option Binary64
  | 0 => some (.zero number.negative)
  | fuel + 1 =>
    if exponent.natAbs ≤ largestStep then
      if 0 ≤ exponent then number.times? (powerOfTen exponent.natAbs)
      else number.divide? (powerOfTen exponent.natAbs)
    else if number.isZero then some number
    else if 0 ≤ exponent then none
    else do
      let smaller ← number.divide? (powerOfTen largestStep)
      scaleByTen smaller (exponent + largestStep) fuel

/-- The floating point number of a significand and a power of ten. -/
def compose (negative : Bool) (significand : Nat) (exponent : Int) : Option Binary64 := do
  let magnitude ← Binary64.ofNat? significand
  let number ← scaleByTen magnitude exponent 4
  return { number with negative }

/-- The largest exponent that is computed with; a larger one decides the result by itself. -/
def largestExponent : Nat := Nat.pow 2 31 - 1

/-- The floating point number of a significand, a power of ten and the exponent of the numeral. -/
def composeWith (negative : Bool) (significand : Nat) (power : Int) :
    Option (Bool × List Char) → Option Binary64
  | none => compose negative significand power
  | some (downward, digits) =>
    let size := digits.foldl (fun value digit => value * 10 + digitValue digit) 0
    if largestExponent < size then
      if significand ≠ 0 ∧ ¬ downward then none else some (.zero negative)
    else compose negative significand (if downward then power - size else power + size)

/-- The value of a numeral, unless it is too large. -/
def value? (numeral : Numeral) : Option Number :=
  let (significand, skipped) := gather 0 numeral.whole
  match numeral.fraction, numeral.exponent with
  | none, none =>
    if skipped = 0 then
      if ¬ numeral.negative then some (.integer significand)
      else if 0 < significand ∧ significand ≤ Nat.pow 2 63 then some (.integer (-significand))
      else (composeWith true significand 0 none).map .float
    else (composeWith numeral.negative significand skipped none).map .float
  | fraction, exponent =>
    let digits := fraction.getD []
    let (significand, unread) := gather significand digits
    let power : Int := (skipped : Int) - (digits.length - unread : Nat)
    (composeWith numeral.negative significand power exponent).map .float

/-- The digits in front are taken away, and the rest is a part of what there was. -/
theorem spanDigits_length_le (characters : List Char) :
    (spanDigits characters).2.length ≤ characters.length :=
  (List.dropWhile_suffix isDigit).length_le

/-- The whole part of a numeral leaves no more than what it was read from. -/
theorem scanWhole_length_le {characters digits rest : List Char}
    (scanned : scanWhole characters = .ok (digits, rest)) : rest.length ≤ characters.length := by
  have bound := spanDigits_length_le characters
  revert scanned bound
  simp only [scanWhole]
  generalize spanDigits characters = split
  obtain ⟨front, back⟩ := split
  intro scanned bound
  simp only at scanned
  split at scanned <;> simp_all

/-- A whole part that begins with a digit takes at least this one. -/
theorem scanWhole_tail_length_le {first : Char} {behind digits rest : List Char}
    (digit : isDigit first = true) (scanned : scanWhole (first :: behind) = .ok (digits, rest)) :
    rest.length ≤ behind.length := by
  have bound := spanDigits_length_le behind
  have split : spanDigits (first :: behind) =
      (first :: (spanDigits behind).1, (spanDigits behind).2) := by
    simp [spanDigits, digit]
  simp only [scanWhole, split] at scanned
  split at scanned
  all_goals simp_all

/-- A fraction leaves no more than what it was read from: without a point in front it takes nothing,
and otherwise the point and its digits. -/
theorem scanFraction_length_le {characters rest : List Char} {digits : Option (List Char)}
    (scanned : scanFraction characters = .ok (digits, rest)) :
    rest.length ≤ characters.length := by
  unfold scanFraction at scanned
  split at scanned
  · rename_i behind
    have bound := spanDigits_length_le behind
    revert scanned bound
    generalize spanDigits behind = split
    obtain ⟨front, back⟩ := split
    intro scanned bound
    simp only at scanned
    split at scanned
    · simp at scanned
    · simp only [Except.ok.injEq, Prod.mk.injEq] at scanned
      obtain ⟨_, rfl⟩ := scanned
      simp only [List.length_cons]
      simp only at bound
      omega
  · simp only [Except.ok.injEq, Prod.mk.injEq] at scanned
    obtain ⟨_, rfl⟩ := scanned
    exact Nat.le_refl _

/-- A sign takes one character or none. -/
theorem scanSign_length_le (characters : List Char) :
    (scanSign characters).2.length ≤ characters.length := by
  unfold scanSign
  split <;> simp

/-- An exponent leaves no more than what it was read from: the letter, the sign and the digits are
taken one after another. -/
theorem scanExponent_length_le {characters rest : List Char}
    {exponent : Option (Bool × List Char)}
    (scanned : scanExponent characters = .ok (exponent, rest)) :
    rest.length ≤ characters.length := by
  unfold scanExponent at scanned
  split at scanned
  · rename_i letter behind
    split at scanned
    · have signBound := scanSign_length_le behind
      revert scanned signBound
      generalize scanSign behind = signed
      obtain ⟨negative, behindSign⟩ := signed
      intro scanned signBound
      simp only at scanned signBound
      have bound := spanDigits_length_le behindSign
      revert scanned bound
      generalize spanDigits behindSign = split
      obtain ⟨front, back⟩ := split
      intro scanned bound
      simp only at scanned bound
      split at scanned
      · simp at scanned
      · simp only [Except.ok.injEq, Prod.mk.injEq] at scanned
        obtain ⟨_, rfl⟩ := scanned
        simp only [List.length_cons]
        omega
    · simp only [Except.ok.injEq, Prod.mk.injEq] at scanned
      obtain ⟨_, rfl⟩ := scanned
      exact Nat.le_refl _
  · simp only [Except.ok.injEq, Prod.mk.injEq] at scanned
    obtain ⟨_, rfl⟩ := scanned
    exact Nat.le_refl _

/-- What follows a numeral is no longer than what it was read from. -/
theorem scan_length_le {negative : Bool} {characters rest : List Char} {numeral : Numeral}
    (scanned : scan negative characters = .ok (numeral, rest)) :
    rest.length ≤ characters.length := by
  unfold scan at scanned
  cases whole : scanWhole characters with
  | error failure => simp [whole, bind, Except.bind] at scanned
  | ok first =>
    cases fraction : scanFraction first.2 with
    | error failure => simp [whole, fraction, bind, Except.bind] at scanned
    | ok second =>
      cases exponent : scanExponent second.2 with
      | error failure => simp [whole, fraction, exponent, bind, Except.bind] at scanned
      | ok third =>
        simp [whole, fraction, exponent, bind, Except.bind, pure, Except.pure] at scanned
        have firstBound := @scanWhole_length_le _ first.1 first.2 whole
        have secondBound := @scanFraction_length_le _ second.2 second.1 fraction
        have thirdBound := @scanExponent_length_le _ third.2 third.1 exponent
        obtain ⟨_, rfl⟩ := scanned
        omega

/-- A numeral takes at least the digit that begins it. -/
theorem scan_tail_length_le {negative : Bool} {first : Char} {behind rest : List Char}
    {numeral : Numeral} (digit : isDigit first = true)
    (scanned : scan negative (first :: behind) = .ok (numeral, rest)) :
    rest.length ≤ behind.length := by
  unfold scan at scanned
  cases whole : scanWhole (first :: behind) with
  | error failure => simp [whole, bind, Except.bind] at scanned
  | ok firstPart =>
    cases fraction : scanFraction firstPart.2 with
    | error failure => simp [whole, fraction, bind, Except.bind] at scanned
    | ok secondPart =>
      cases exponent : scanExponent secondPart.2 with
      | error failure => simp [whole, fraction, exponent, bind, Except.bind] at scanned
      | ok thirdPart =>
        simp [whole, fraction, exponent, bind, Except.bind, pure, Except.pure] at scanned
        have firstBound := @scanWhole_tail_length_le _ _ firstPart.1 firstPart.2 digit whole
        have secondBound := @scanFraction_length_le _ secondPart.2 secondPart.1 fraction
        have thirdBound := @scanExponent_length_le _ thirdPart.2 thirdPart.1 exponent
        obtain ⟨_, rfl⟩ := scanned
        omega

end Numeral

end Gatehouse.Json
