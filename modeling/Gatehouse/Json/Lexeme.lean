import Gatehouse.Json.Numeral
import Gatehouse.Text.Utf8
import Gatehouse.Text.Hex

/-!
# Lexemes

A document as the sequence of its marks, words, numbers and texts. Every lexeme
serves two readings. The first one takes its value; the second one passes over it,
for a member that no one asked for, and is more lenient: a number may be too large
and a surrogate may stand alone. A lexeme that only the first reading refuses holds
that fault in the place of its value. A lexeme that the second reading refuses as
well ends the sequence, because nothing behind it can be told apart. A broken text
is kept apart from the other broken lexemes, because there are places where only a
text may stand.
-/

namespace Gatehouse.Json

/-- One lexeme. -/
inductive Lexeme
  | openBrace
  | closeBrace
  | openBracket
  | closeBracket
  | colon
  | comma
  | null
  | bool (value : Bool)
  | number (value : Option Number)
  | text (value : Except Fault String)
  | brokenText (strict lenient : Fault)
  | broken (strict lenient : Fault)
deriving Repr

namespace Lexeme

/-- The four characters that may stand between lexemes. -/
def isSpace (character : Char) : Bool :=
  character == ' ' || character == '\n' || character == '\t' || character == '\r'

/-- The rest of a text that begins with a word. -/
def expectWord : List Char → List Char → Except Fault (List Char)
  | [], rest => .ok rest
  | _ :: _, [] => .error .truncated
  | expected :: word, character :: rest =>
    if character = expected then expectWord word rest else .error .malformed

/-- The number of four hexadecimal digits. -/
def fourDigits? (a b c d : Char) : Option Nat := do
  return (((← Text.Hex.value? a) * 16 + (← Text.Hex.value? b)) * 16 + (← Text.Hex.value? c)) * 16
    + (← Text.Hex.value? d)

/-- The fault of an escape by number that fewer than four characters follow: the text ends too
early where they take fewer than four octets. -/
def shortEscape (rest : List Char) : Fault :=
  if Text.Utf8.size rest < 4 then .truncated else .malformed

/-- The fault of a leading surrogate that no trailing one follows. -/
def afterLeadingSurrogate : List Char → Fault
  | [] => .truncated
  | ['\\'] => .truncated
  | '\\' :: 'u' :: rest => shortEscape rest
  | _ => .malformed

/-- The trailing surrogate that an escape by number in front of a text spells. -/
def trailingSurrogate? : List Char → Option Nat
  | '\\' :: 'u' :: a :: b :: c :: d :: _ =>
    (fourDigits? a b c d).filter fun unit => 0xDC00 ≤ unit && unit ≤ 0xDFFF
  | _ => none

/-- The character of a letter that a backslash precedes. -/
def escaped? : Char → Option Char
  | '"' => some '"'
  | '\\' => some '\\'
  | '/' => some '/'
  | 'b' => some '\x08'
  | 'f' => some '\x0c'
  | 'n' => some '\n'
  | 'r' => some '\r'
  | 't' => some '\t'
  | _ => none

/-- What has been read of a text: its characters, the latest first, or the first fault. -/
abbrev Content := Except Fault (List Char)

/-- Put a character behind the content. -/
def Content.push (content : Content) (character : Char) : Content :=
  content.map (character :: ·)

/-- Note a fault; the first one counts. -/
def Content.spoil (content : Content) (fault : Fault) : Content :=
  content.bind fun _ => .error fault

/-- The text that has been read, or the fault in it. -/
def Content.close (content : Content) : Except Fault String :=
  content.map fun characters => String.ofList characters.reverse

/-- A text that no quote closes is broken in both readings. -/
def Content.break (content : Content) (fault : Fault) : Lexeme :=
  match content with
  | .ok _ => .brokenText fault fault
  | .error earlier => .brokenText earlier fault

/-- The rest of a text behind its first quote, and what follows the closing one. -/
def scanText (content : Content) : List Char → Lexeme × List Char
  | [] => (content.break .truncated, [])
  | '"' :: rest => (.text content.close, rest)
  | ['\\'] => (content.break .truncated, [])
  | '\\' :: 'u' :: a :: b :: c :: d :: rest =>
    match fourDigits? a b c d with
    | none => (content.break .malformed, [])
    | some unit =>
      if unit < 0xD800 ∨ 0xDFFF < unit then scanText (content.push (Char.ofNat unit)) rest
      else if 0xDC00 ≤ unit then scanText (content.spoil .malformed) rest
      else match trailingSurrogate? rest with
        | some second =>
          let code := (unit - 0xD800) * 0x400 + (second - 0xDC00) + 0x10000
          scanText (content.push (Char.ofNat code)) (rest.drop 6)
        | none => scanText (content.spoil (afterLeadingSurrogate rest)) rest
  | '\\' :: 'u' :: rest => (content.break (shortEscape rest), [])
  | '\\' :: letter :: rest =>
    match escaped? letter with
    | some character => scanText (content.push character) rest
    | none => (content.break .malformed, [])
  | character :: rest =>
    if character.toNat < 0x20 then (content.break .malformed, [])
    else scanText (content.push character) rest
termination_by characters => characters.length
decreasing_by all_goals simp only [List.length_cons, List.length_drop]; omega

/-- The lexeme of a word, behind its first letter. -/
def scanWord (lexeme : Lexeme) (word : List Char) (characters : List Char) :
    Lexeme × List Char :=
  match expectWord word characters with
  | .ok rest => (lexeme, rest)
  | .error fault => (.broken fault fault, [])

/-- The lexeme of a number, behind its sign. -/
def scanNumber (negative : Bool) (characters : List Char) : Lexeme × List Char :=
  match Numeral.scan negative characters with
  | .ok (numeral, rest) => (.number numeral.value?, rest)
  | .error failure => (.broken failure.strict failure.lenient, [])

/-- The lexeme that a character begins, and what follows it. -/
def scan (first : Char) (rest : List Char) : Lexeme × List Char :=
  match first with
  | '{' => (.openBrace, rest)
  | '}' => (.closeBrace, rest)
  | '[' => (.openBracket, rest)
  | ']' => (.closeBracket, rest)
  | ':' => (.colon, rest)
  | ',' => (.comma, rest)
  | '"' => scanText (.ok []) rest
  | 'n' => scanWord .null ['u', 'l', 'l'] rest
  | 't' => scanWord (.bool true) ['r', 'u', 'e'] rest
  | 'f' => scanWord (.bool false) ['a', 'l', 's', 'e'] rest
  | '-' => scanNumber true rest
  | _ =>
    if Numeral.isDigit first then scanNumber false (first :: rest)
    else (.broken .malformed .malformed, [])

/-- A word that is found leaves what stands behind it, which is no longer than what it was found
in. -/
theorem expectWord_length_le {word characters rest : List Char}
    (found : expectWord word characters = .ok rest) : rest.length ≤ characters.length := by
  induction word generalizing characters with
  | nil => simp_all [expectWord]
  | cons expected word inductionHypothesis =>
    cases characters with
    | nil => simp [expectWord] at found
    | cons character behind =>
      simp only [expectWord] at found
      split at found
      · have := inductionHypothesis found
        simp only [List.length_cons]
        omega
      · simp at found

/-- A word takes characters away or none, and a word that is not found leaves nothing behind it. -/
theorem scanWord_length_le (lexeme : Lexeme) (word characters : List Char) :
    (scanWord lexeme word characters).2.length ≤ characters.length := by
  unfold scanWord
  split
  · rename_i found
    exact expectWord_length_le found
  · simp

/-- What follows a text is no longer than its characters and what follows it, whether the text ends
or not. By induction on the characters, with an escape taking several of them at once. -/
theorem scanText_length_le (content : Content) (characters : List Char) :
    (scanText content characters).2.length ≤ characters.length := by
  fun_induction scanText content characters <;>
    simp_all only [List.length_cons, List.length_drop, List.length_nil] <;> omega

/-- Every lexeme takes at least the character that begins it. This is the measure by which the
sequence of lexemes ends. -/
theorem scan_length_le (first : Char) (rest : List Char) :
    (scan first rest).2.length ≤ rest.length := by
  unfold scan
  split
  all_goals first
    | exact Nat.le_refl _
    | exact scanText_length_le ..
    | exact scanWord_length_le ..
    | skip
  · unfold scanNumber
    split
    · rename_i scanned
      exact Numeral.scan_length_le scanned
    · exact Nat.zero_le _
  · split
    · rename_i digit
      unfold scanNumber
      split
      · rename_i numeral behind scanned
        exact Numeral.scan_tail_length_le digit scanned
      · exact Nat.zero_le _
    · exact Nat.zero_le _

/-- The lexemes of a text behind those already `done`, the latest of which stand first. -/
def sequenceAfter (done : List Lexeme) : List Char → List Lexeme
  | [] => done.reverse
  | first :: rest =>
    if isSpace first then sequenceAfter done rest
    else sequenceAfter ((scan first rest).1 :: done) (scan first rest).2
termination_by characters => characters.length
decreasing_by
  all_goals
    have := scan_length_le first rest
    simp only [List.length_cons]
    omega

end Lexeme

/-- The lexemes of a text, up to and with the first one that is broken. -/
def lexemes (characters : List Char) : List Lexeme := Lexeme.sequenceAfter [] characters

end Gatehouse.Json
