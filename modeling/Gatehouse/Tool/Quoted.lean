/-!
# Quotes in reports

How reports of tools show arguments: in quotes, with characters that could not be seen
spelled out, and names of files in such a way that a shell reads them again. Texts are
texts of octets.
-/

namespace Gatehouse.Tool

/-- Whether a character can be seen. -/
def isVisible (character : Char) : Bool := ' ' ≤ character && character ≤ '~'

/-- A character that cannot be seen, spelled by a letter or by its number. -/
def spelled (character : Char) : List Char :=
  let letters := [('\x07', 'a'), ('\x08', 'b'), ('\t', 't'), ('\n', 'n'), ('\x0b', 'v'),
    ('\x0c', 'f'), ('\r', 'r')]
  match letters.find? (·.1 == character) with
  | some (_, letter) => ['\\', letter]
  | none =>
    let digits := Nat.toDigits 8 character.toNat
    '\\' :: (List.replicate (3 - digits.length) '0' ++ digits)

/-- A text in quotes. -/
def quoted (text : String) : String :=
  let spell (character : Char) : List Char :=
    match character with
    | '\'' => ['\\', '\'']
    | '\\' => ['\\', '\\']
    | other => if isVisible other then [other] else spelled other
  "'" ++ String.ofList (text.toList.flatMap spell) ++ "'"

/-- Whether a shell could take a character of a name for more than itself; for some this depends on
whether it stands first or alone. -/
def isDelicate (isFirst isAlone : Bool) (character : Char) : Bool :=
  !isVisible character ||
    character ∈ [' ', '!', '"', '$', '&', '\'', '(', ')', '*', ':', ';', '<', '=', '>', '?', '[',
      '\\', '^', '\x60', '|'] ||
    (isFirst && character ∈ ['#', '~']) || (isAlone && character ∈ ['\x7b', '\x7d'])

/-- Characters that double quotes leave alone, for a shell and for others. -/
def isPlain (character : Char) : Bool :=
  character.isAlphanum ||
    character ∈ [' ', '\'', '%', '+', ',', '-', '.', '/', ':', ']', '_', '@']

/-- The characters of a name within quotes. What cannot be seen stands in quotes of its own. -/
def insideQuotes (isSpelling : Bool) : List Char → List Char
  | [] => []
  | '\'' :: rest => ['\'', '\\', '\'', '\''] ++ insideQuotes false rest
  | first :: rest =>
    if isVisible first then
      (if isSpelling then ['\'', '\''] else []) ++ first :: insideQuotes false rest
    else (if isSpelling then [] else ['\'', '$', '\'']) ++ spelled first ++ insideQuotes true rest

/-- A name of a file in quotes. -/
def quotedName (name : String) : String :=
  let characters := name.toList
  if characters.contains '\'' ∧ characters.all isPlain then "\"" ++ name ++ "\""
  else "'" ++ String.ofList (insideQuotes false characters) ++ "'"

/-- A name of a file, in quotes where it needs them. -/
def shownName (name : String) : String :=
  match name.toList with
  | [] => quotedName name
  | first :: rest =>
    if isDelicate true rest.isEmpty first ∨ rest.any (isDelicate false false) then quotedName name
    else name

end Gatehouse.Tool
