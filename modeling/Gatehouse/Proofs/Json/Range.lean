import Gatehouse.Json.Lexeme
import Gatehouse.Proofs.Json.Canonical

/-!
# Numbers of a document

Digits are gathered only as long as they stay below 64 bits, and a numeral whose digits
were not all taken is a floating point number. So no lexeme of a text holds an integer
out of range, however long its digits are.
-/

namespace Gatehouse.Json

namespace Numeral

/-- Gathered digits stay below 64 bits, since a digit that would lead beyond is not taken. -/
theorem gather_lt {significand : Nat} (small : significand < Nat.pow 2 64) (digits : List Char) :
    (gather significand digits).1 < Nat.pow 2 64 := by
  induction digits generalizing significand with
  | nil => exact small
  | cons digit digits inductionHypothesis =>
    simp only [gather]
    split
    · next fits => exact inductionHypothesis fits
    · exact small

/-- A numeral that stands for an integer stands for one in range. -/
theorem inRange_of_value? {numeral : Numeral} {number : Number}
    (valued : numeral.value? = some number) : number.InRange := by
  have small : (gather 0 numeral.whole).1 < Nat.pow 2 64 := gather_lt (by decide) _
  simp only [value?] at valued
  split at valued
  -- Only a numeral of digits alone, all of them taken, is an integer.
  · split at valued
    · split at valued
      · obtain rfl := Option.some.inj valued
        simp only [Number.InRange, Nat.pow_eq] at small ⊢
        omega
      · split at valued
        · next fits =>
          obtain rfl := Option.some.inj valued
          simp only [Number.InRange, Nat.pow_eq] at fits ⊢
          omega
        · obtain ⟨float, -, rfl⟩ := Option.map_eq_some_iff.mp valued
          trivial
    · obtain ⟨float, -, rfl⟩ := Option.map_eq_some_iff.mp valued
      trivial
  · obtain ⟨float, -, rfl⟩ := Option.map_eq_some_iff.mp valued
    trivial

end Numeral

namespace Lexeme

/-- Whatever number a lexeme holds is in range. -/
def Fits : Lexeme → Prop
  | .number (some value) => value.InRange
  | _ => True

/-- No text is a number, so there is nothing to be in range. -/
theorem fits_scanText (content : Content) (characters : List Char) :
    (scanText content characters).1.Fits := by
  have broken (content : Content) (fault : Fault) : (content.break fault).Fits := by
    cases content <;> trivial
  fun_induction scanText content characters <;> first
    | assumption
    | exact broken ..
    | trivial

/-- Neither is a word, whether it is found or not. -/
theorem fits_scanWord {lexeme : Lexeme} (fits : lexeme.Fits) (word characters : List Char) :
    (scanWord lexeme word characters).1.Fits := by
  unfold scanWord
  split
  · exact fits
  · trivial

/-- A number that is scanned is in range if it is an integer. -/
theorem fits_scanNumber (negative : Bool) (characters : List Char) :
    (scanNumber negative characters).1.Fits := by
  unfold scanNumber
  split
  · next numeral rest scanned =>
    cases valued : numeral.value? with
    | none => trivial
    | some number => exact Numeral.inRange_of_value? valued
  · trivial

/-- Every lexeme that is scanned fits. -/
theorem fits_scan (first : Char) (rest : List Char) : (scan first rest).1.Fits := by
  unfold scan
  split
  case h_12 =>
    split
    · exact fits_scanNumber ..
    · trivial
  all_goals first
    | trivial
    | exact fits_scanText ..
    | (refine fits_scanWord ?_ _ _; trivial)
    | exact fits_scanNumber ..

/-- Every lexeme of a text fits if those already done do. By induction along the loop that gathers
them. -/
theorem fits_of_mem_sequenceAfter {done : List Lexeme} (doneFit : ∀ lexeme ∈ done, lexeme.Fits)
    (characters : List Char) : ∀ lexeme ∈ sequenceAfter done characters, lexeme.Fits := by
  fun_induction sequenceAfter done characters with
  | case1 done =>
    intro lexeme inside
    exact doneFit lexeme (List.mem_reverse.mp inside)
  | case2 done first rest space inductionHypothesis => exact inductionHypothesis doneFit
  | case3 done first rest visible inductionHypothesis =>
    exact inductionHypothesis (List.forall_mem_cons.mpr ⟨fits_scan first rest, doneFit⟩)

end Lexeme

end Gatehouse.Json
