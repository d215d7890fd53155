import Gatehouse.Text.Unprintable

/-!
# Quoted texts

A text in double quotes, for messages and for summaries that name keys. Quotes,
backslashes and the common controls are escaped by a backslash, and a character
without a visible form of its own is spelled by its number, so the quoted form is
one visible line and ends at the first quote that no backslash precedes.
-/

namespace Gatehouse.Text.Quoted

/-- The quoted form of one character. -/
def encodeChar (character : Char) : List Char :=
  match character with
  | '"' => ['\\', '"']
  | '\\' => ['\\', '\\']
  | '\n' => ['\\', 'n']
  | '\r' => ['\\', 'r']
  | '\t' => ['\\', 't']
  | '\x00' => ['\\', '0']
  | _ =>
    if isUnprintable character then
      '\\' :: 'u' :: '\x7b' :: Nat.toDigits 16 character.toNat ++ ['\x7d']
    else [character]

/-- A text between double quotes. -/
def encode (text : String) : String :=
  String.ofList ('"' :: text.toList.flatMap encodeChar ++ ['"'])

end Gatehouse.Text.Quoted
