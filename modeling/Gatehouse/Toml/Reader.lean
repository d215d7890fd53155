import Gatehouse.Toml.Item
import Gatehouse.Toml.Scalar

/-!
# Reading TOML

A document is a list of statements, one a line, unless a string or a list of values
goes over several lines. Values are nested to a fixed depth at most, and dotted keys
have a bounded number of parts.
-/

namespace Gatehouse.Toml

namespace Reader

/-- The depth of nesting at which a document is refused, and the number of parts of a key. -/
def depthLimit : Nat := 80

/-- Whether a key without quotes can hold a character. -/
def isBareKey (character : Char) : Bool :=
  character.isAlphanum || character == '_' || character == '-'

/-- One part of a key. -/
def keyPart : Reader String
  | '"' :: rest => Quoted.short ('"' :: rest)
  | '\'' :: rest => Quoted.short ('\'' :: rest)
  | characters =>
    let name := characters.takeWhile isBareKey
    if name.isEmpty then none
    else some (String.ofList name, characters.dropWhile isBareKey)

/-- The parts of a key with points between them and blanks around each; the fuel bounds their
number. -/
def keyParts : Nat → Reader (List String)
  | 0, _ => none
  | fuel + 1, characters => do
    let (name, rest) ← keyPart (skipBlanks characters)
    match skipBlanks rest with
    | '.' :: rest => do
      let (names, rest) ← keyParts fuel rest
      return (name :: names, rest)
    | rest => return ([name], rest)

/-- A key: the path in front of its last part, and that part. -/
def key : Reader (List String × String) := fun characters => do
  let (names, rest) ← keyParts (depthLimit - 1) characters
  let name ← names.getLast?
  return ((names.dropLast, name), rest)

/-- The text behind a comment at its front. -/
def skipComment : List Char → List Char
  | '#' :: rest => rest.dropWhile isPrintable
  | characters => characters

/-- The text behind the blanks, comments and line breaks at its front; the fuel bounds the
comments. -/
def skipFiller : Nat → List Char → List Char
  | 0, characters => characters
  | fuel + 1, characters =>
    match skipSpace characters with
    | '#' :: rest =>
      match afterBreak? (skipComment ('#' :: rest)) with
      | some rest => skipFiller fuel rest
      | none => '#' :: rest
    | rest => rest

/-- The items of a list, up to its closing bracket. A comma may stand behind the last one. -/
def arrayItems (item : Reader Item) (done : List Item) : Nat → Reader Item
  | 0, _ => none
  | fuel + 1, characters =>
    match skipFiller characters.length characters with
    | ']' :: rest => some (.array done.reverse, rest)
    | front => do
      let (found, rest) ← item front
      match skipFiller rest.length rest with
      | ']' :: rest => some (.array (found :: done).reverse, rest)
      | ',' :: rest => arrayItems item (found :: done) fuel rest
      | _ => none

/-- A pair up to the end of its value. -/
def pair (item : Reader Item) : Reader (List String × String × Item) := fun characters => do
  let ((path, name), rest) ← key characters
  let rest ← Scalar.mark '=' rest
  let (found, rest) ← item (skipBlanks rest)
  return ((path, name, found), rest)

/-- The pairs between braces, on one line, without a comma behind the last one. -/
def bracePairs (item : Reader Item) (done : List (List String × String × Item)) :
    Nat → Reader (List (List String × String × Item))
  | 0, _ => none
  | fuel + 1, characters => do
    let (found, rest) ← pair item characters
    match skipBlanks rest with
    | '}' :: rest => some ((found :: done).reverse, rest)
    | ',' :: rest => bracePairs item (found :: done) fuel rest
    | _ => none

/-- A table in braces, behind the opening one. -/
def braces (item : Reader Item) : Reader Item := fun characters =>
  match skipBlanks characters with
  | '}' :: rest => some (.closed [], rest)
  | front => do
    let (pairs, rest) ← bracePairs item [] front.length front
    return (.closed (← Members.ofPairs pairs), rest)

/-- A value, of at most so many levels. -/
def item : Nat → Reader Item
  | _, '"' :: rest => (Quoted.read ('"' :: rest)).map fun (found, rest) => (.text found, rest)
  | _, '\'' :: rest => (Quoted.read ('\'' :: rest)).map fun (found, rest) => (.text found, rest)
  | _, 't' :: 'r' :: 'u' :: 'e' :: rest => some (.flag true, rest)
  | _, 'f' :: 'a' :: 'l' :: 's' :: 'e' :: rest => some (.flag false, rest)
  | 0, '[' :: _ => none
  | 0, '{' :: _ => none
  | depth + 1, '[' :: rest => arrayItems (item depth) [] (rest.length + 1) rest
  | depth + 1, '{' :: rest => braces (item depth) rest
  | _, characters =>
    (Scalar.read characters).map fun (found, rest) =>
      match found with
      | .integer value => (.integer value, rest)
      | .float => (.float, rest)
      | .moment => (.moment, rest)

/-- The text behind the end of a line, in front of which blanks and a comment may stand. -/
def lineEnd (characters : List Char) : Option (List Char) :=
  match skipComment (skipBlanks characters) with
  | [] => some []
  | rest => afterBreak? rest

/-- The key of a header, behind the opening bracket or brackets. -/
def header (closing : List Char) : Reader (List String × String) := fun characters => do
  let (found, rest) ← key characters
  let rest ← closing.foldlM (fun rest bracket => Scalar.mark bracket rest) rest
  return (found, rest)

/-- A statement up to the end of its last line. -/
def statement : Reader Statement
  | '[' :: '[' :: rest => do
    let ((path, name), rest) ← header [']', ']'] rest
    return (.next path name, ← lineEnd rest)
  | '[' :: rest => do
    let ((path, name), rest) ← header [']'] rest
    return (.table path name, ← lineEnd rest)
  | characters => do
    let ((path, name, found), rest) ← pair (item (depthLimit - 1)) characters
    return (.pair path name found, ← lineEnd rest)

/-- The statements of a text, behind those already read, the latest of which stand first. The fuel
bounds their number and that of the lines without one. -/
def statements (done : List Statement) : Nat → List Char → Option (List Statement)
  | 0, _ => none
  | fuel + 1, characters =>
    match skipBlanks characters with
    | [] => some done.reverse
    | '#' :: rest => do statements done fuel (← lineEnd ('#' :: rest))
    | front =>
      match afterBreak? front with
      | some rest => statements done fuel rest
      | none => do
        let (found, rest) ← statement front
        statements (found :: done) fuel rest

/-- The text without the mark of its encoding. -/
def skipMark : List Char → List Char
  | '\uFEFF' :: rest => rest
  | characters => characters

end Reader

/-- The root table of a document. -/
def read? (text : String) : Option Members := do
  let characters := Reader.skipMark text.toList
  Document.ofStatements (← Reader.statements [] (characters.length + 1) characters)

end Gatehouse.Toml
