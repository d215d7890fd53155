import Gatehouse.Text.Blank
import Gatehouse.Text.Utf8

/-!
# Lines of a file of variables

The text of one entry may go over several lines when a quote is open at the end of a
line. A comment ends the line it stands in; it begins with a hash mark at the beginning
of a line or behind a single blank. The end of the file has to be the end of an entry.
-/

namespace Gatehouse.EnvFile

/-- Why an entry cannot be read: its octets are no text, or its text breaks the grammar at an
offset. -/
inductive EntryError
  | notText
  | malformed (text : String) (offset : Nat)
deriving DecidableEq, Repr

/-- The messages of an error, the outer one first. -/
def EntryError.messages : EntryError → List String
  | .notText => ["stream did not contain valid UTF-8", "stream did not contain valid UTF-8"]
  | .malformed text offset =>
    ["Error parsing line: '" ++ text ++ "', error at line index: " ++ toString offset]

/-- What is open at some place of a line. -/
inductive Opening
  | nothing
  | blank
  | escape
  | single
  | singleEscape
  | double
  | doubleEscape
deriving DecidableEq, Repr

namespace Opening

/-- What a character opens where nothing is quoted. -/
def ofPlain (character : Char) (other : Opening) : Opening :=
  if character = '\\' then .escape
  else if character = '"' then .double
  else if character = '\'' then .single
  else other

/-- What is open behind a character, unless it begins a comment. -/
def step (opening : Opening) (character : Char) : Option Opening :=
  match opening with
  | .blank => if character = '#' then none else some (ofPlain character .nothing)
  | .nothing =>
    let endsLine := character == '\n' || character == '\r'
    some (ofPlain character
      (if Text.isBlank character && !endsLine then .blank else .nothing))
  | .escape => some .nothing
  | .single =>
    some (if character = '\\' then .singleEscape
      else if character = '\'' then .nothing else .single)
  | .singleEscape => some .single
  | .double =>
    some (if character = '\\' then .doubleEscape
      else if character = '"' then .nothing else .double)
  | .doubleEscape => some .double

end Opening

/-- A line up to its comment, if it has one, and what is open behind it otherwise. -/
def scan (opening : Opening) (done : List Char) : List Char → Opening ⊕ List Char
  | [] => .inl opening
  | character :: rest =>
    match opening.step character with
    | none => .inr done.reverse
    | some next => scan next (character :: done) rest

/-- A line without the break at its end. -/
def withoutBreak (line : List Char) : List Char :=
  match line.reverse with
  | '\n' :: '\r' :: rest => rest.reverse
  | '\n' :: rest => rest.reverse
  | _ => line

/-- Whether a line holds a comment and nothing else. -/
def isComment (line : List Char) : Bool :=
  (line.dropWhile Text.isBlank).head? == some '#'

/-- The texts of the entries of a file, from the physical lines that are left, what has been read
of the entry at hand, and what is open in it. A line that is no text ends the entry. -/
def entryTexts (held : List Char) (opening : Opening) :
    List (Option String) → List (Except EntryError (List Char))
  | [] =>
    if opening = .nothing then []
    else [.error (.malformed (String.ofList held) (Text.Utf8.size held))]
  | none :: rest => .error .notText :: entryTexts [] .nothing rest
  | some line :: rest =>
    let whole := held ++ line.toList
    if isComment whole then .ok [] :: entryTexts [] .nothing rest
    else match scan opening [] line.toList with
      | .inr front => .ok (held ++ front) :: entryTexts [] .nothing rest
      | .inl .nothing => .ok (withoutBreak whole) :: entryTexts [] .nothing rest
      | .inl opened => entryTexts whole opened rest

/-- The physical lines of a file, each with its break. -/
def physicalLines (done : List UInt8) : List UInt8 → List (List UInt8)
  | [] => if done.isEmpty then [] else [done.reverse]
  | octet :: rest =>
    if octet = 0x0A then (octet :: done).reverse :: physicalLines [] rest
    else physicalLines (octet :: done) rest

/-- The texts of the entries of a file. -/
def texts (octets : List UInt8) : List (Except EntryError (List Char)) :=
  entryTexts [] .nothing ((physicalLines [] octets).map Text.Utf8.decode?)

end Gatehouse.EnvFile
