import Gatehouse.Json.Fault
import Gatehouse.Text.Hex

/-!
# Writing a document

The compact text of a value: no space between lexemes, members in the order that the
value has them, and every character as itself except quotes, backslashes and control
characters. So a written document is one line, whatever its texts hold.
-/

namespace Gatehouse.Json

/-- The written form of one character of a text. -/
def escape (character : Char) : List Char :=
  match character with
  | '"' => ['\\', '"']
  | '\\' => ['\\', '\\']
  | '\x08' => ['\\', 'b']
  | '\x0c' => ['\\', 'f']
  | '\n' => ['\\', 'n']
  | '\r' => ['\\', 'r']
  | '\t' => ['\\', 't']
  | _ =>
    let code := character.toNat
    if code < 0x20 then
      ['\\', 'u', '0', '0', Text.Hex.digit (code / 16), Text.Hex.digit (code % 16)]
    else [character]

/-- A text between quotes. -/
def writeText (text : String) : List Char := '"' :: text.toList.flatMap escape ++ ['"']

/-- Written parts with commas between them. -/
def joinParts : List (List Char) → List Char
  | [] => []
  | [part] => part
  | part :: rest => part ++ ',' :: joinParts rest

mutual

/-- The compact text of a value. -/
def Value.write : Value → List Char
  | .null => ['n', 'u', 'l', 'l']
  | .bool true => ['t', 'r', 'u', 'e']
  | .bool false => ['f', 'a', 'l', 's', 'e']
  | .number value => value.write
  | .text value => writeText value
  | .list items => '[' :: joinParts (writeItems items) ++ [']']
  | .object members => '\x7b' :: joinParts (writeMembers members) ++ ['\x7d']

/-- The texts of the items of a list. -/
def writeItems : List Value → List (List Char)
  | [] => []
  | item :: rest => item.write :: writeItems rest

/-- The texts of the members of an object. -/
def writeMembers : List (String × Value) → List (List Char)
  | [] => []
  | (name, value) :: rest => (writeText name ++ ':' :: value.write) :: writeMembers rest

end

/-- The compact text of a value, as a string. -/
def Value.render (value : Value) : String := String.ofList value.write

end Gatehouse.Json
