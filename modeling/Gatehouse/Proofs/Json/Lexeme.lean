import Gatehouse.Json.Writer
import Gatehouse.Proofs.Json.Numeral
import Gatehouse.Proofs.Text.Hex

/-!
# The lexemes of what was written

The scanner takes each written mark, word, text and integer as one lexeme and leaves
what follows. A text is taken one escape at a time, so that nothing in it can end it
early: quotes, backslashes and control characters are written as escapes, and every
escape is read as the one character it stands for.
-/

namespace Gatehouse.Json

namespace Lexeme

/-- The lexemes behind those already done do not depend on them. The loop gathers them backwards;
stated like this, it can be followed without the part that is done. -/
theorem sequenceAfter_eq (done : List Lexeme) (characters : List Char) :
    sequenceAfter done characters = done.reverse ++ lexemes characters := by
  suffices general : ∀ (size : Nat) (characters : List Char), characters.length ≤ size →
      ∀ done, sequenceAfter done characters = done.reverse ++ lexemes characters from
    general characters.length characters (Nat.le_refl _) done
  intro size
  induction size with
  | zero =>
    intro characters bounded done
    obtain rfl := List.length_eq_zero_iff.mp (Nat.le_zero.mp bounded)
    simp [lexemes, sequenceAfter]
  | succ size inductionHypothesis =>
    intro characters bounded done
    cases characters with
    | nil => simp [lexemes, sequenceAfter]
    | cons first rest =>
      rw [List.length_cons] at bounded
      rw [lexemes, sequenceAfter, sequenceAfter]
      split
      · exact inductionHypothesis rest (by omega) done
      · have shorter : (scan first rest).2.length ≤ size := by
          have := scan_length_le first rest
          omega
        rw [inductionHypothesis _ shorter, inductionHypothesis _ shorter [(scan first rest).1]]
        simp

end Lexeme

open Lexeme

/-- There are no lexemes in an empty text. -/
@[simp]
theorem lexemes_nil : lexemes [] = [] := by
  simp [lexemes, sequenceAfter]

/-- The lexeme that a character begins stands in front of those of what it leaves. -/
theorem lexemes_cons {first : Char} (visible : isSpace first = false) (rest : List Char) :
    lexemes (first :: rest) = (scan first rest).1 :: lexemes (scan first rest).2 := by
  rw [lexemes, sequenceAfter, if_neg (by simp [visible]), sequenceAfter_eq]
  rfl

/-- A brace that opens is a lexeme by itself. -/
@[simp]
theorem lexemes_openBrace (rest : List Char) :
    lexemes ('\x7b' :: rest) = .openBrace :: lexemes rest :=
  lexemes_cons rfl rest

/-- A brace that closes is a lexeme by itself. -/
@[simp]
theorem lexemes_closeBrace (rest : List Char) :
    lexemes ('\x7d' :: rest) = .closeBrace :: lexemes rest :=
  lexemes_cons rfl rest

/-- A bracket that opens is a lexeme by itself. -/
@[simp]
theorem lexemes_openBracket (rest : List Char) :
    lexemes ('[' :: rest) = .openBracket :: lexemes rest :=
  lexemes_cons rfl rest

/-- A bracket that closes is a lexeme by itself. -/
@[simp]
theorem lexemes_closeBracket (rest : List Char) :
    lexemes (']' :: rest) = .closeBracket :: lexemes rest :=
  lexemes_cons rfl rest

/-- A colon is a lexeme by itself. -/
@[simp]
theorem lexemes_colon (rest : List Char) : lexemes (':' :: rest) = .colon :: lexemes rest :=
  lexemes_cons rfl rest

/-- A comma is a lexeme by itself. -/
@[simp]
theorem lexemes_comma (rest : List Char) : lexemes (',' :: rest) = .comma :: lexemes rest :=
  lexemes_cons rfl rest

/-- The word for nothing is one lexeme, whatever follows it. -/
@[simp]
theorem lexemes_null (rest : List Char) :
    lexemes ('n' :: 'u' :: 'l' :: 'l' :: rest) = .null :: lexemes rest :=
  lexemes_cons rfl _

/-- The word for truth is one lexeme, whatever follows it. -/
@[simp]
theorem lexemes_true (rest : List Char) :
    lexemes ('t' :: 'r' :: 'u' :: 'e' :: rest) = .bool true :: lexemes rest :=
  lexemes_cons rfl _

/-- The word for falsehood is one lexeme, whatever follows it. -/
@[simp]
theorem lexemes_false (rest : List Char) :
    lexemes ('f' :: 'a' :: 'l' :: 's' :: 'e' :: rest) = .bool false :: lexemes rest :=
  lexemes_cons rfl _

/-- The four digits of a control character are read as its code. -/
theorem fourDigits?_control {code : Nat} (control : code < 0x20) :
    fourDigits? '0' '0' (Text.Hex.digit (code / 16)) (Text.Hex.digit (code % 16)) = some code := by
  have zero : Text.Hex.value? '0' = some 0 := by decide
  have high := Text.Hex.value?_digit (show code / 16 < 16 by omega)
  have low := Text.Hex.value?_digit (show code % 16 < 16 by omega)
  have whole : code / 16 * 16 + code % 16 = code := by omega
  simp [fourDigits?, zero, high, low, whole]

/-- The scanner reads the written form of a character as that character. It is written as itself, as
an escape of one letter, or as one of four digits. -/
theorem scanText_escape (content : Content) (character : Char) (rest : List Char) :
    scanText content (escape character ++ rest) = scanText (content.push character) rest := by
  unfold escape
  split
  · simp [scanText, escaped?]
  · simp [scanText, escaped?]
  · simp [scanText, escaped?]
  · simp [scanText, escaped?]
  · simp [scanText, escaped?]
  · simp [scanText, escaped?]
  · simp [scanText, escaped?]
  · next noQuote noBackslash _ _ _ _ _ =>
    simp only
    split
    · next control =>
      simp only [List.cons_append, List.nil_append]
      rw [scanText, fourDigits?_control control]
      simp only
      rw [if_pos (by omega), Char.ofNat_toNat]
    · next visible =>
      rw [List.singleton_append, scanText]
      · rw [if_neg visible]
      · exact noQuote
      · exact fun escaping _ => noBackslash escaping
      · exact fun _ _ _ _ _ escaping _ => noBackslash escaping
      · exact fun _ escaping _ => noBackslash escaping
      · exact fun _ _ escaping _ => noBackslash escaping

/-- The scanner reads a written text as its characters, and leaves what follows the closing quote.
By induction on the characters, since no written form ends the text. -/
theorem scanText_write (done characters rest : List Char) :
    scanText (.ok done) (characters.flatMap escape ++ '"' :: rest) =
      (.text (.ok (String.ofList (done.reverse ++ characters))), rest) := by
  induction characters generalizing done with
  | nil => simp [scanText, Content.close, Except.map]
  | cons character behind inductionHypothesis =>
    have push : (Content.push (.ok done) character) = .ok (character :: done) := rfl
    rw [List.flatMap_cons, List.append_assoc, scanText_escape, push, inductionHypothesis]
    simp

/-- A written text is one lexeme, whatever follows its closing quote. -/
theorem lexemes_text (text : String) (rest : List Char) :
    lexemes (writeText text ++ rest) = .text (.ok text) :: lexemes rest := by
  have scanned :
      scan '"' (text.toList.flatMap escape ++ '"' :: rest) = (.text (.ok text), rest) := by
    simp [scan, scanText_write]
  rw [writeText, List.append_assoc, List.cons_append, List.singleton_append, lexemes_cons rfl,
    scanned]

/-- A digit is no space. -/
theorem isSpace_digit {digit : Char} (decimal : Numeral.isDigit digit = true) :
    isSpace digit = false := by
  simp only [isSpace, Bool.or_eq_false_iff, beq_eq_false_iff_ne]
  refine ⟨⟨⟨?_, ?_⟩, ?_⟩, ?_⟩
  all_goals
    rintro rfl
    exact absurd decimal (by decide)

/-- A digit begins a number, and nothing else. -/
theorem scan_digit {digit : Char} (decimal : Numeral.isDigit digit = true) (rest : List Char) :
    scan digit rest = scanNumber false (digit :: rest) := by
  unfold scan
  split
  case h_12 => rw [if_pos decimal]
  all_goals exact absurd decimal (by decide)

/-- An integer is written as its digits, behind a minus sign if it is negative. -/
theorem Number.write_integer (value : Int) :
    (Number.integer value).write =
      if 0 ≤ value then Numeral.digits value.toNat else '-' :: Numeral.digits (-value).toNat := by
  rw [Number.write, Int.toString_eq_repr, Int.repr_eq_if]
  split
  · exact Nat.toList_repr
  · rw [String.toList_append, Nat.toList_repr]
    rfl

/-- A written integer is one lexeme where nothing that follows could belong to it. -/
theorem lexemes_integer {value : Int} (inRange : (Number.integer value).InRange)
    {rest : List Char} (ends : Numeral.EndsNumeral rest) :
    lexemes ((Number.integer value).write ++ rest) =
      .number (some (.integer value)) :: lexemes rest := by
  obtain ⟨lower, upper⟩ := inRange
  rw [Number.write_integer]
  split
  · next notNegative =>
    have same : (value.toNat : Int) = value := Int.toNat_of_nonneg notNegative
    have small : value.toNat < Nat.pow 2 64 := by
      have bound : Nat.pow 2 64 = 0x10000000000000000 := rfl
      omega
    obtain ⟨first, behind, front⟩ :=
      List.exists_cons_of_ne_nil (Numeral.digits_ne_nil value.toNat)
    have decimal : Numeral.isDigit first = true :=
      Numeral.isDigit_of_mem_digits (front ▸ List.mem_cons_self)
    rw [front, List.cons_append, lexemes_cons (isSpace_digit decimal), scan_digit decimal,
      ← List.cons_append, ← front, scanNumber_digits small ends, same]
  · next negative =>
    have same : -((-value).toNat : Int) = value := by omega
    have small : (-value).toNat ≤ Nat.pow 2 63 := by
      have bound : Nat.pow 2 63 = 0x8000000000000000 := rfl
      omega
    have scanned : scan '-' (Numeral.digits (-value).toNat ++ rest) =
        scanNumber true (Numeral.digits (-value).toNat ++ rest) := rfl
    rw [List.cons_append, lexemes_cons rfl, scanned,
      scanNumber_negative_digits (by omega) small ends, same]

/-! ## A number in front of a text -/

section

variable {characters left rest : List Char} {number : Number}

/-- No text is a number, by induction on its characters: it ends as a text or as a broken one. -/
theorem scanText_ne_number (content : Content) (characters : List Char) :
    (scanText content characters).1 ≠ .number (some number) := by
  have broken (content : Content) (fault : Fault) :
      content.break fault ≠ .number (some number) := by
    cases content <;> simp [Content.break]
  fun_induction scanText content characters <;>
    simp_all only [ne_eq, not_false_eq_true, reduceCtorEq]

/-- No word is a number. -/
theorem scanWord_ne_number {lexeme : Lexeme} (other : lexeme ≠ .number (some number))
    (word characters : List Char) :
    (scanWord lexeme word characters).1 ≠ .number (some number) := by
  unfold scanWord
  split
  · exact other
  · simp

/-- Only a minus sign or a digit begins a number: what any other character begins is a mark, a word,
a text or a fault. -/
theorem begins_of_scan {first : Char}
    (scanned : (scan first characters).1 = .number (some number)) :
    first = '-' ∨ Numeral.isDigit first = true := by
  unfold scan at scanned
  split at scanned
  case h_7 => exact absurd scanned (scanText_ne_number _ _)
  case h_8 => exact absurd scanned (scanWord_ne_number (by simp) _ _)
  case h_9 => exact absurd scanned (scanWord_ne_number (by simp) _ _)
  case h_10 => exact absurd scanned (scanWord_ne_number (by simp) _ _)
  case h_11 => exact .inl rfl
  case h_12 =>
    split at scanned
    · next decimal => exact .inr decimal
    · cases scanned
  all_goals cases scanned

/-- A number is scanned alike whatever follows it, if that could not belong to a number. Other
lexemes are not: the front of a text or of a word is broken where the whole is not. -/
theorem scan_append_of_number (ends : Numeral.EndsNumeral rest) {first : Char}
    (scanned : scan first characters = (.number (some number), left)) :
    scan first (characters ++ rest) = (.number (some number), left ++ rest) := by
  rcases begins_of_scan (congrArg Prod.fst scanned) with rfl | decimal
  · exact scanNumber_append ends scanned
  · rw [scan_digit decimal] at scanned ⊢
    exact scanNumber_append ends scanned

/-- Spaces between lexemes are passed over. -/
theorem lexemes_space {first : Char} (space : isSpace first = true) (rest : List Char) :
    lexemes (first :: rest) = lexemes rest := by
  rw [lexemes, sequenceAfter, if_pos space, lexemes]

/-- A text without lexemes is blank, so it may stand in front of another one. By induction on its
characters, each of which is a space. -/
theorem lexemes_append_of_blank (blank : lexemes characters = []) (rest : List Char) :
    lexemes (characters ++ rest) = lexemes rest := by
  induction characters with
  | nil => rfl
  | cons first behind inductionHypothesis =>
    cases space : isSpace first with
    | true =>
      rw [lexemes_space space] at blank
      rw [List.cons_append, lexemes_space space, inductionHypothesis blank]
    | false =>
      rw [lexemes_cons space] at blank
      cases blank

/-- A text that is one number stands for that number in front of any text that could not go on
with it. -/
theorem lexemes_append_of_number (ends : Numeral.EndsNumeral rest)
    (alone : lexemes characters = [.number (some number)]) :
    lexemes (characters ++ rest) = .number (some number) :: lexemes rest := by
  induction characters with
  | nil =>
    rw [lexemes_nil] at alone
    cases alone
  | cons first behind inductionHypothesis =>
    cases space : isSpace first with
    | true =>
      rw [lexemes_space space] at alone
      rw [List.cons_append, lexemes_space space, inductionHypothesis alone]
    | false =>
      rw [lexemes_cons space] at alone
      obtain ⟨isNumber, blank⟩ := List.cons.inj alone
      have scanned : scan first behind = (.number (some number), (scan first behind).2) :=
        Prod.ext isNumber rfl
      rw [List.cons_append, lexemes_cons space, scan_append_of_number ends scanned,
        lexemes_append_of_blank blank]

end

end Gatehouse.Json
