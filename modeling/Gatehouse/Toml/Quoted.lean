import Gatehouse.Text.Hex

/-!
# TOML strings

The four forms of a string: with and without escapes, on one line and on several. A
line break in a string is one character however it is written. Each reader takes the
text behind the opening quotes and gives the content and what stands behind the
closing ones.
-/

namespace Gatehouse.Toml

/-- A reader takes characters from the front of a text, if they have its form. -/
abbrev Reader (α : Type) := List Char → Option (α × List Char)

/-- Blanks within a line. -/
def isBlank (character : Char) : Bool := character == ' ' || character == '\t'

/-- Characters that may stand in strings and comments. -/
def isPrintable (character : Char) : Bool :=
  character == '\t' || (' ' ≤ character && character ≠ '\x7F')

/-- The text behind a line break at its front. -/
def afterBreak? : List Char → Option (List Char)
  | '\n' :: rest => some rest
  | '\r' :: '\n' :: rest => some rest
  | _ => none

/-- The text without the blanks at its front. -/
def skipBlanks (characters : List Char) : List Char := characters.dropWhile isBlank

/-- The text without the blanks and line breaks at its front. -/
def skipSpace : List Char → List Char
  | ' ' :: rest => skipSpace rest
  | '\t' :: rest => skipSpace rest
  | '\n' :: rest => skipSpace rest
  | '\r' :: '\n' :: rest => skipSpace rest
  | characters => characters

namespace Quoted

/-- The value of hexadecimal digits. -/
def hexValue? (digits : List Char) : Option Nat :=
  digits.foldlM (fun value digit => do return value * 16 + (← Text.Hex.value? digit)) 0

/-- A character given by the digits of its number, which are as many as are asked for. -/
def numbered (width : Nat) : Reader Char := fun characters => do
  let digits := characters.take width
  let value ← hexValue? digits
  if digits.length = width ∧ value.isValidChar then
    some (Char.ofNat value, characters.drop width)
  else none

/-- The character of an escape, behind its backslash. -/
def escaped : Reader Char
  | 'b' :: rest => some ('\x08', rest)
  | 't' :: rest => some ('\t', rest)
  | 'n' :: rest => some ('\n', rest)
  | 'f' :: rest => some ('\x0C', rest)
  | 'r' :: rest => some ('\r', rest)
  | '"' :: rest => some ('"', rest)
  | '\\' :: rest => some ('\\', rest)
  | 'u' :: rest => numbered 4 rest
  | 'U' :: rest => numbered 8 rest
  | _ => none

/-- The text behind a line break that a backslash hides, with the blank lines behind it and the
blanks that the next line begins with. -/
def afterHiddenBreak? (characters : List Char) : Option (List Char) := do
  let rest ← afterBreak? (skipBlanks characters)
  return skipSpace rest

/-- The content of a string on one line, behind what has been read of it. The fuel bounds its
characters. -/
def line (quote : Char) (escapes : Bool) (done : List Char) : Nat → Reader String
  | 0, _ => none
  | fuel + 1, characters =>
    match characters with
    | [] => none
    | first :: rest =>
      if first = quote then some (String.ofList done.reverse, rest)
      else if escapes ∧ first = '\\' then do
        let (character, rest) ← escaped rest
        line quote escapes (character :: done) fuel rest
      else if isPrintable first then line quote escapes (first :: done) fuel rest
      else none

/-- The content of a string on several lines. One or two quotes are content, and so are up to two
in front of the three that close the string. -/
def lines (quote : Char) (escapes : Bool) (done : List Char) : Nat → Reader String
  | 0, _ => none
  | fuel + 1, characters =>
    match characters with
    | [] => none
    | first :: rest =>
      if first = quote then
        let size := (characters.takeWhile (· = quote)).length
        if size < 3 then lines quote escapes (first :: done) fuel rest
        else
          let kept := min (size - 3) 2
          some (String.ofList (List.replicate kept quote ++ done).reverse,
            characters.drop (kept + 3))
      else if escapes ∧ first = '\\' then
        match afterHiddenBreak? rest with
        | some rest => lines quote escapes done fuel rest
        | none => do
          let (character, rest) ← escaped rest
          lines quote escapes (character :: done) fuel rest
      else if isPrintable first then lines quote escapes (first :: done) fuel rest
      else do
        let rest ← afterBreak? characters
        lines quote escapes ('\n' :: done) fuel rest

/-- The text behind the line break that may stand behind the opening quotes. -/
def skipFirstBreak (characters : List Char) : List Char :=
  (afterBreak? characters).getD characters

/-- A string on one line. -/
def short : Reader String
  | '"' :: rest => line '"' true [] (rest.length + 1) rest
  | '\'' :: rest => line '\'' false [] (rest.length + 1) rest
  | _ => none

/-- A string of any form. -/
def read : Reader String
  | '"' :: '"' :: '"' :: rest => lines '"' true [] (rest.length + 1) (skipFirstBreak rest)
  | '\'' :: '\'' :: '\'' :: rest => lines '\'' false [] (rest.length + 1) (skipFirstBreak rest)
  | characters => short characters

end Quoted

end Gatehouse.Toml
