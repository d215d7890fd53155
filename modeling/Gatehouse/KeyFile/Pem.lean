import Gatehouse.Text.Base64

/-!
# Textual key files

One document in base64 between a line that opens it and a line that closes it, both
of which name its kind. The base64 text stands in lines of exactly 64 digits, the
last of which may be shorter. A line ends with LF, CRLF or CR. Lines of other text
may stand before the document, nothing but one end of line behind it.
-/

namespace Gatehouse.KeyFile.Pem

/-- What every opening line begins with. -/
def opening : List Char := "-----BEGIN ".toList

/-- What a closing line begins with. -/
def closing : List Char := "-----END ".toList

/-- What both lines end with. -/
def dashes : List Char := "-----".toList

/-- The number of digits in a full line. -/
def lineWidth : Nat := 64

/-- A text without a certain beginning. -/
def stripPrefix? : List Char → List Char → Option (List Char)
  | [], rest => some rest
  | _ :: _, [] => none
  | expected :: start, character :: rest =>
    if expected = character then stripPrefix? start rest else none

/-- A text without a certain end. -/
def stripSuffix? (ending characters : List Char) : Option (List Char) :=
  (stripPrefix? ending.reverse characters.reverse).map List.reverse

/-- A text without the end of line in front of it. -/
def stripLineEnd? : List Char → Option (List Char)
  | '\r' :: '\n' :: rest => some rest
  | '\n' :: rest => some rest
  | '\r' :: rest => some rest
  | _ => none

/-- A text without the end of line behind it. -/
def stripFinalLineEnd? (characters : List Char) : Option (List Char) :=
  match characters.reverse with
  | '\n' :: '\r' :: rest => some rest.reverse
  | '\n' :: rest => some rest.reverse
  | '\r' :: rest => some rest.reverse
  | _ => none

/-- The document behind the text before it, which holds no NUL and ends with LF. -/
def skipPreamble? : List Char → Option (List Char)
  | [] => none
  | character :: rest =>
    if character = '\x00' then none
    else if character = '\n' ∧ opening.isPrefixOf rest then some rest
    else skipPreamble? rest

/-- The document from its opening line on. -/
def fromOpening? (characters : List Char) : Option (List Char) :=
  if opening.isPrefixOf characters then some characters else skipPreamble? characters

/-- The text between the two lines that name a kind. -/
def body? (kind : String) (characters : List Char) : Option (List Char) := do
  let document ← fromOpening? characters
  let behind ← stripPrefix? (opening ++ kind.toList ++ dashes) document
  let behind ← stripLineEnd? behind
  let behind := (stripFinalLineEnd? behind).getD behind
  let body ← stripSuffix? (closing ++ kind.toList ++ dashes) behind
  stripFinalLineEnd? body

/-- The digits of the lines of a body; the fuel bounds the number of lines. -/
def joinLines? (characters : List Char) : Nat → Option (List Char)
  | 0 => some []
  | fuel + 1 =>
    let behind := characters.drop lineWidth
    if behind.isEmpty then some ((stripFinalLineEnd? characters).getD characters)
    else do
      let rest ← stripLineEnd? behind
      return characters.take lineWidth ++ (← joinLines? rest fuel)

/-- The octets of the document of a kind. -/
def decode? (kind text : String) : Option (List UInt8) := do
  let body ← body? kind text.toList
  let digits ← joinLines? body body.length
  Text.Base64.decodePadded? .standard digits

end Gatehouse.KeyFile.Pem
