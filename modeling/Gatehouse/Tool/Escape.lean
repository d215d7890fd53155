import Gatehouse.Tool.Basic

/-!
# Escapes

What a backslash and the characters behind it stand for. The tools agree on the letters and
differ in what else they know.
-/

namespace Gatehouse.Tool

/-- Who reads an escape: a script that writes a line, a format, the tool that writes a line, or a
set of characters. -/
inductive Dialect
  | scriptLine
  | format
  | toolLine
  | set
deriving DecidableEq, Repr

/-- An escape: the octets it stands for, whether it ends all output, and what stands behind it. -/
structure Escape where
  content : List Char
  ends : Bool := false
  rest : List Char

/-- Whether a character is an octal digit. -/
def isOctal (character : Char) : Bool := '0' ≤ character && character ≤ '7'

/-- Whether a character is a hexadecimal digit. -/
def isHex (character : Char) : Bool :=
  character.isDigit || ('a' ≤ character && character ≤ 'f') || ('A' ≤ character && character ≤ 'F')

/-- The value of a digit of any base up to sixteen. -/
def digitValue (digit : Char) : Nat :=
  if digit.isDigit then digit.toNat - '0'.toNat else digit.toLower.toNat - 'a'.toNat + 10

/-- An escape by number, of at most so many digits; only its last eight bits count. -/
def numbered (base width : Nat) (isPart : Char → Bool) (characters : List Char) : Escape :=
  let digits := (characters.take width).takeWhile isPart
  let value := digits.foldl (fun value digit => value * base + digitValue digit) 0
  { content := [Char.ofNat (value % 256)], rest := characters.drop digits.length }

/-- The character of a letter behind a backslash. -/
def letter? : Char → Option Char
  | 'a' => some '\x07'
  | 'b' => some '\x08'
  | 'f' => some '\x0c'
  | 'n' => some '\n'
  | 'r' => some '\r'
  | 't' => some '\t'
  | 'v' => some '\x0b'
  | '\\' => some '\\'
  | _ => none

/-- The escape behind a backslash. One that is not known stands for itself. -/
def escape (dialect : Dialect) (characters : List Char) : Escape :=
  match characters with
  | [] => { content := ['\\'], rest := [] }
  | first :: rest =>
    let zeroFirst := first = '0' ∧ (dialect = .scriptLine ∨ dialect = .toolLine) ∧
      (rest.head?.map isOctal).getD false
    if zeroFirst then numbered 8 3 isOctal rest
    else if isOctal first then numbered 8 3 isOctal (first :: rest)
    else match letter? first with
      | some character => { content := [character], rest }
      | none =>
        if first = 'c' ∧ (dialect = .scriptLine ∨ dialect = .toolLine) then
          { content := [], ends := true, rest := [] }
        else if first = 'e' ∧ dialect ≠ .set then { content := ['\x1b'], rest }
        else if first = 'x' ∧ dialect = .toolLine ∧ (rest.head?.map isHex).getD false then
          numbered 16 2 isHex rest
        else if dialect = .set then { content := [first], rest }
        else { content := ['\\'], rest := first :: rest }

/-- A text without its escapes, and whether one of them ends all output; the fuel bounds its
characters. -/
def unescape (dialect : Dialect) (done : List Char) : Nat → List Char → List Char × Bool
  | 0, _ => (done.reverse, false)
  | _ + 1, [] => (done.reverse, false)
  | fuel + 1, '\\' :: rest =>
    let found := escape dialect rest
    let done := found.content.reverse ++ done
    if found.ends then (done.reverse, true) else unescape dialect done fuel found.rest
  | fuel + 1, first :: rest => unescape dialect (first :: done) fuel rest

/-- A text without its escapes. -/
def unescaped (dialect : Dialect) (text : String) : List Char × Bool :=
  unescape dialect [] (text.length + 1) text.toList

/-- Octets that stand as characters. -/
def octetsOf (characters : List Char) : List UInt8 :=
  Text.Octets.toList (String.ofList characters)

end Gatehouse.Tool
