/-!
# Blank characters

The Unicode property White_Space and the trimming of a text at both ends. The
table is closed: it lists every character of the property, so no locale and no
later version of the standard changes what is trimmed.
-/

namespace Gatehouse.Text

/-- The characters of the Unicode property White_Space. -/
def isBlank (character : Char) : Bool :=
  let code := character.toNat
  (0x09 ≤ code && code ≤ 0x0D) || code == 0x20 || code == 0x85 || code == 0xA0 ||
    code == 0x1680 || (0x2000 ≤ code && code ≤ 0x200A) || code == 0x2028 ||
    code == 0x2029 || code == 0x202F || code == 0x205F || code == 0x3000

/-- Drop the characters a test accepts from both ends, and none between them. -/
def trimBy (test : Char → Bool) (characters : List Char) : List Char :=
  ((characters.dropWhile test).reverse.dropWhile test).reverse

/-- A text without the blank characters around it. -/
def trim (text : String) : String :=
  String.ofList (trimBy isBlank text.toList)

/-- Whether a text holds blank characters only, the empty text among them. -/
def isBlankText (text : String) : Bool :=
  text.toList.all isBlank

end Gatehouse.Text
