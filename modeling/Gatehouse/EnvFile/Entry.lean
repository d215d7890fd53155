import Gatehouse.EnvFile.Line
import Gatehouse.Json.Value
import Gatehouse.Text.Alphanumeric

/-!
# Entries of a file of variables

An entry is a name, an equals sign and a value. The value may be quoted and may refer to
the environment and to the entries above it. Reading is one pass over the characters of
the value with a small state.
-/

namespace Gatehouse.EnvFile

/-- What a reference stands for: the environment first, then the entries above. -/
structure Scope where
  environment : String → Option String
  entries : List (String × Option String)

/-- The value of a name; that of an unknown name is empty. -/
def Scope.value (scope : Scope) (name : String) : String :=
  match scope.environment name with
  | some value => value
  | none => ((Json.find? name scope.entries).getD none).getD ""

/-- The part of a value that a character belongs to. -/
inductive Mode
  | plain
  | single
  | reference (name : List Char)
  | braced (name : List Char)
  | behind
deriving DecidableEq, Repr

/-- The state of reading a value: its part, whether a double quote is open around it, whether the
character before was an escape, and what has been read, the latest character first. -/
structure ValueState where
  mode : Mode
  quoted : Bool
  escaped : Bool
  output : List Char
deriving DecidableEq, Repr

namespace ValueState

/-- Nothing read so far, and nothing quoted. -/
def start : ValueState := ⟨.plain, false, false, []⟩

/-- Put the value of a reference behind what has been read. -/
def substitute (scope : Scope) (state : ValueState) (name : List Char) : ValueState :=
  { state with
    mode := .plain
    output := (scope.value (String.ofList name.reverse)).toList.reverse ++ state.output }

/-- A character that belongs to the value as it is. -/
def keep (state : ValueState) (character : Char) : ValueState :=
  { state with output := character :: state.output }

/-- One character where no reference is open. -/
def stepPlain (state : ValueState) (character : Char) : ValueState :=
  if character = '$' then { state with mode := .reference [] }
  else if character = '\\' then { state with escaped := true }
  else if character = '"' then { state with quoted := !state.quoted }
  else if state.quoted then state.keep character
  else if character = '\'' then { state with mode := .single }
  else if character = ' ' ∨ character = '\t' then { state with mode := .behind }
  else state.keep character

/-- One character behind a backslash. -/
def stepEscaped (state : ValueState) (character : Char) : Option ValueState :=
  if character ∈ ['\\', '\'', '"', '$', ' '] then
    some { state.keep character with escaped := false }
  else if character = 'n' then some { state.keep '\n' with escaped := false }
  else none

/-- One character of a reference without braces, or the one that ends it. -/
def stepReference (scope : Scope) (state : ValueState) (name : List Char) (character : Char) :
    ValueState :=
  if Text.isAlphanumeric character then { state with mode := .reference (character :: name) }
  else if character = '\x7b' ∧ name.isEmpty then { state with mode := .braced [] }
  else if character = '$' then { state.substitute scope name with mode := .reference [] }
  else (state.substitute scope name).keep character

end ValueState

/-- Read the characters of a value from a place on; the result is a state, or the place of the
character that fits nowhere. A comment behind the value ends it. -/
def readValue (scope : Scope) (state : ValueState) (place : Nat) :
    List Char → Except Nat ValueState
  | [] => .ok state
  | character :: rest =>
    match state.mode with
    | .behind =>
      if character = ' ' ∨ character = '\t' then readValue scope state (place + 1) rest
      else if character = '#' then .ok state
      else .error place
    | .single =>
      let next := if character = '\'' then { state with mode := .plain } else state.keep character
      readValue scope next (place + 1) rest
    | .reference name =>
      readValue scope (state.stepReference scope name character) (place + 1) rest
    | .braced name =>
      let next :=
        if character = '\x7d' then state.substitute scope name
        else { state with mode := .braced (character :: name) }
      readValue scope next (place + 1) rest
    | .plain =>
      if state.escaped then
        match state.stepEscaped character with
        | some next => readValue scope next (place + 1) rest
        | none => .error place
      else readValue scope (state.stepPlain character) (place + 1) rest

/-- The value in a text, which must not end within quotes or braces. -/
def value (scope : Scope) (text : List Char) : Except EntryError String :=
  let whole := String.ofList text
  match readValue scope .start 0 text with
  | .error place => .error (.malformed whole place)
  | .ok state =>
    match state.mode, state.quoted with
    | .single, _ | .braced _, _ | _, true =>
      .error (.malformed whole (Text.Utf8.size text - 1))
    | .reference name, false =>
      .ok (String.ofList (state.substitute scope name).output.reverse)
    | _, false => .ok (String.ofList state.output.reverse)

/-- Whether a name can begin with a character. -/
def isNameStart (character : Char) : Bool := character.isAlpha || character == '_'

/-- Whether a name can go on with a character. -/
def isNameChar (character : Char) : Bool :=
  character.isAlphanum || character == '_' || character == '.'

/-- A name at the front of a text, and what stands behind it and the blanks that follow. -/
def readName (text : List Char) : Option (List Char × List Char) :=
  if (text.head?.map isNameStart).getD false then
    some (text.takeWhile isNameChar, (text.dropWhile isNameChar).dropWhile Text.isBlank)
  else none

/-- The name of an entry and the text of its value. A word that exports the entry may stand in
front of the name, but it may also be the name. On failure the rest that does not fit is given. -/
def readAssignment (text : List Char) : Except (List Char) (String × List Char) :=
  match readName text with
  | none => .error text
  | some (name, '=' :: rest) => .ok (String.ofList name, rest.dropWhile Text.isBlank)
  | some (name, rest) =>
    if name = "export".toList then
      match readName rest with
      | none => .error rest
      | some (name, '=' :: rest) => .ok (String.ofList name, rest.dropWhile Text.isBlank)
      | some (_, rest) => .error rest
    else .error rest

/-- An entry of a file. -/
abbrev Entry := String × String

/-- The entry in a text, if there is one, and the entries that references behind it may name. -/
def readEntry (scope : Scope) (text : List Char) :
    Except EntryError (Option Entry × List (String × Option String)) :=
  let trimmed := (text.reverse.dropWhile Text.isBlank).reverse
  let front := trimmed.dropWhile Text.isBlank
  if front.isEmpty ∨ front.head? = some '#' then .ok (none, scope.entries)
  else match readAssignment front with
    | .error left =>
      .error (.malformed (String.ofList text) (Text.Utf8.size trimmed - Text.Utf8.size left))
    | .ok (name, rest) =>
      if rest.isEmpty ∨ rest.head? = some '#' then
        .ok (some (name, ""), (name, none) :: scope.entries)
      else do
        let found ← value scope rest
        return (some (name, found), (name, some found) :: scope.entries)

/-- The entries of the texts of a file in their order. An entry that cannot be read is an error in
its place; the entries below it are read all the same. -/
def readEntries (environment : String → Option String) (entries : List (String × Option String)) :
    List (Except EntryError (List Char)) → List (Except EntryError Entry)
  | [] => []
  | .error error :: rest => .error error :: readEntries environment entries rest
  | .ok text :: rest =>
    match readEntry ⟨environment, entries⟩ text with
    | .error error => .error error :: readEntries environment entries rest
    | .ok (none, entries) => readEntries environment entries rest
    | .ok (some entry, entries) => .ok entry :: readEntries environment entries rest

/-- The entries of a file, each with its own result. -/
def read (environment : String → Option String) (octets : List UInt8) :
    List (Except EntryError Entry) :=
  readEntries environment [] (texts octets)

end Gatehouse.EnvFile
