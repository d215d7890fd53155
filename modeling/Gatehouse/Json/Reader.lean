import Gatehouse.Json.Lexeme
import Gatehouse.Json.Schema

/-!
# Reading a document

A reader is an automaton over lexemes. Its state is the stack of containers that are
open, each with what has been read of it, and what may come next. Every lexeme takes
one step, so the first problem in the order of the text decides, whether it is one of
the grammar or one of the expected shape, and nothing behind it is looked at.

What an unknown member holds is passed over: its grammar is checked, its values are
not. Containers whose values are kept may be nested 127 deep; those passed over may
be nested without a limit.
-/

namespace Gatehouse.Json

/-- An open container, with what has been read of it. -/
inductive Frame
  /-- A list of one shape; the latest item stands first. -/
  | items (entry : Schema) (done : List Value)
  /-- An object with values of one shape, and the name whose value comes next. -/
  | table (entry : Schema) (done : List (String × Value)) (name : String)
  /-- A record written as an object. The name is absent where the member is no field of it. -/
  | fields (title : String) (all : List Schema.Field) (found : List (String × Value))
      (name : Option String)
  /-- A record written as a list, with the fields still to come. -/
  | slots (title : String) (all remaining : List Schema.Field) (found : List (String × Value))
  /-- A choice written as an object whose only member has the name of the choice. -/
  | choice (name : String)
  | skippedList
  | skippedObject
deriving Repr

/-- What may come next. -/
inductive Await
  | value (schema : Schema)
  | itemOrEnd
  | nameOrEnd
  | name
  | choiceName (names : List String)
  | colon (schema : Schema)
  | separator
  | closingBrace
  | nothing (value : Value)
deriving Repr

/-- Where a reader stands. -/
structure ReaderState where
  stack : List Frame
  await : Await
deriving Repr

namespace Reader

/-- The nesting of containers whose values are kept. -/
def nestingLimit : Nat := 127

/-- A value is complete: it goes to the container around it, or it is the document. -/
def deliver (value : Value) : List Frame → ReaderState
  | [] => ⟨[], .nothing value⟩
  | .items entry done :: outer => ⟨.items entry (value :: done) :: outer, .separator⟩
  | .table entry done name :: outer =>
    ⟨.table entry (insert name value done) name :: outer, .separator⟩
  | .fields title all found (some name) :: outer =>
    ⟨.fields title all ((name, value) :: found) none :: outer, .separator⟩
  | .slots title all ((name, _, _) :: remaining) found :: outer =>
    ⟨.slots title all remaining ((name, value) :: found) :: outer, .separator⟩
  | .choice name :: outer => ⟨.choice name :: outer, .closingBrace⟩
  | frame :: outer => ⟨frame :: outer, .separator⟩

/-- Open a container whose values are kept. -/
def enter (frame : Frame) (await : Await) (stack : List Frame) : Except Fault ReaderState :=
  if stack.length < nestingLimit then .ok ⟨frame :: stack, await⟩ else .error .malformed

/-- What a lexeme shows to a place that expects something else. A lexeme that begins no value, or
a broken one, is an error of the grammar before it is a mismatch. -/
def found : Lexeme → Except Fault Found
  | .null => .ok .null
  | .bool value => .ok (.bool value)
  | .number (some value) => .ok (.number value)
  | .number none => .error .malformed
  | .text (.ok value) => .ok (.text value)
  | .text (.error fault) => .error fault
  | .openBracket => .ok .list
  | .openBrace => .ok .object
  | .brokenText strict _ => .error strict
  | .broken strict _ => .error strict
  | .closeBrace | .closeBracket | .colon | .comma => .error .malformed

/-- Refuse a lexeme in a place that expects something else. -/
def refuse {α : Type} (expected : String) (lexeme : Lexeme) : Except Fault α := do
  let shown ← found lexeme
  .error (.mismatch (.wrongKind shown expected))

/-- A value of any shape begins. -/
def beginAny (stack : List Frame) (lexeme : Lexeme) : Except Fault ReaderState :=
  match lexeme with
  | .openBracket => enter (.items .any []) .itemOrEnd stack
  | .openBrace => enter (.table .any [] "") .nameOrEnd stack
  | _ => do
    match ← found lexeme with
    | .null => return deliver .null stack
    | .bool value => return deliver (.bool value) stack
    | .number value => return deliver (.number value) stack
    | .text value => return deliver (.text value) stack
    | .list | .object => .error .malformed

/-- A value that is passed over begins. -/
def beginIgnored (stack : List Frame) (lexeme : Lexeme) : Except Fault ReaderState :=
  match lexeme with
  | .null | .bool _ | .number _ | .text _ => .ok (deliver .null stack)
  | .openBracket => .ok ⟨.skippedList :: stack, .itemOrEnd⟩
  | .openBrace => .ok ⟨.skippedObject :: stack, .nameOrEnd⟩
  | .brokenText _ lenient => .error lenient
  | .broken _ lenient => .error lenient
  | .closeBrace | .closeBracket | .colon | .comma => .error .malformed

/-- A choice begins: its name, or an object around its name. -/
def beginChoice (names : List String) (stack : List Frame) (lexeme : Lexeme) :
    Except Fault ReaderState :=
  match lexeme with
  | .text (.ok name) =>
    if name ∈ names then .ok (deliver (.text name) stack)
    else .error (.mismatch (.unknownChoice name names))
  | .text (.error fault) => .error fault
  | .brokenText strict _ => .error strict
  | .openBrace => enter (.choice "") (.choiceName names) stack
  | _ => .error .malformed

/-- A value of a shape begins. -/
def begin (schema : Schema) (stack : List Frame) (lexeme : Lexeme) : Except Fault ReaderState :=
  match schema with
  | .any => beginAny stack lexeme
  | .ignored => beginIgnored stack lexeme
  | .unit => match lexeme with
    | .null => .ok (deliver .null stack)
    | _ => refuse "unit" lexeme
  | .text => match lexeme with
    | .text (.ok value) => .ok (deliver (.text value) stack)
    | _ => refuse "a string" lexeme
  | .flag => match lexeme with
    | .bool value => .ok (deliver (.bool value) stack)
    | _ => refuse "a boolean" lexeme
  | .integer lower upper title => match lexeme with
    | .number (some (.integer value)) =>
      if lower ≤ value ∧ value ≤ upper then .ok (deliver (.number (.integer value)) stack)
      else .error (.mismatch (.outOfRange value title))
    | _ => refuse title lexeme
  | .choice names => beginChoice names stack lexeme
  | .list entry => match lexeme with
    | .openBracket => enter (.items entry []) .itemOrEnd stack
    | _ => refuse "a sequence" lexeme
  | .table entry => match lexeme with
    | .openBrace => enter (.table entry [] "") .nameOrEnd stack
    | _ => refuse "a map" lexeme
  | .record title fields => match lexeme with
    | .openBracket => enter (.slots title fields fields []) .itemOrEnd stack
    | .openBrace => enter (.fields title fields [] none) .nameOrEnd stack
    | _ => refuse ("struct " ++ title) lexeme

/-- The fields of a record in declaration order, blank where an optional one is absent. -/
def complete (found : List (String × Value)) : List Schema.Field →
    Except String (List (String × Value))
  | [] => .ok []
  | (name, mayBeAbsent, schema) :: rest => do
    let value ← match find? name found with
      | some value => .ok value
      | none => if mayBeAbsent then .ok schema.blank else .error name
    return (name, value) :: (← complete found rest)

/-- The place of the field of a name. -/
def place (name : String) (fields : List Schema.Field) : Nat :=
  fields.findIdx fun field => field.1 == name

/-- A list ends. -/
def closeBracket : List Frame → Except Fault ReaderState
  | .items _ done :: outer => .ok (deliver (.list done.reverse) outer)
  | .slots title all _ found :: outer =>
    match complete found all with
    | .ok members => .ok (deliver (.object members) outer)
    | .error name => .error (.mismatch (.tooShort (place name all) title all.length))
  | .skippedList :: outer => .ok (deliver .null outer)
  | _ => .error .malformed

/-- An object ends. -/
def closeBrace : List Frame → Except Fault ReaderState
  | .table _ done _ :: outer => .ok (deliver (.object done) outer)
  | .fields _ all found _ :: outer =>
    match complete found all with
    | .ok members => .ok (deliver (.object members) outer)
    | .error name => .error (.mismatch (.missing name))
  | .choice name :: outer => .ok (deliver (.text name) outer)
  | .skippedObject :: outer => .ok (deliver .null outer)
  | _ => .error .malformed

/-- The next item of the innermost list begins. A record takes no more items than it has fields. -/
def beginItem (stack : List Frame) (lexeme : Lexeme) : Except Fault ReaderState :=
  match stack with
  | .items entry _ :: _ => begin entry stack lexeme
  | .slots _ _ ((_, _, schema) :: _) _ :: _ => begin schema stack lexeme
  | .skippedList :: _ => beginIgnored stack lexeme
  | _ => .error .malformed

/-- A comma stands behind a value. -/
def separate (stack : List Frame) : Except Fault ReaderState :=
  match stack with
  | .items entry _ :: _ => .ok ⟨stack, .value entry⟩
  | .slots _ _ ((_, _, schema) :: _) _ :: _ => .ok ⟨stack, .value schema⟩
  | .skippedList :: _ => .ok ⟨stack, .value .ignored⟩
  | .table .. :: _ | .fields .. :: _ | .skippedObject :: _ => .ok ⟨stack, .name⟩
  | _ => .error .malformed

/-- The name of a member stands in the innermost object. A field comes at most once; a name that
is no field is passed over with its value. -/
def nameMember (name : String) : List Frame → Except Fault ReaderState
  | .table entry done _ :: outer => .ok ⟨.table entry done name :: outer, .colon entry⟩
  | .fields title all found _ :: outer =>
    if (find? name found).isSome then .error (.mismatch (.repeated name))
    else match Schema.fieldShape? name all with
      | some schema => .ok ⟨.fields title all found (some name) :: outer, .colon schema⟩
      | none => .ok ⟨.fields title all found none :: outer, .colon .ignored⟩
  | _ => .error .malformed

/-- A member begins with its name. -/
def beginMember (stack : List Frame) (lexeme : Lexeme) : Except Fault ReaderState :=
  match stack with
  | .skippedObject :: _ => match lexeme with
    | .text _ => .ok ⟨stack, .colon .ignored⟩
    | .brokenText _ lenient => .error lenient
    | _ => .error .malformed
  | _ => match lexeme with
    | .text (.ok name) => nameMember name stack
    | .text (.error fault) => .error fault
    | .brokenText strict _ => .error strict
    | _ => .error .malformed

/-- The name of a choice stands in the object around it; like the name of a member, it is a
text. -/
def nameChoice (names : List String) (stack : List Frame) (lexeme : Lexeme) :
    Except Fault ReaderState :=
  match lexeme, stack with
  | .text (.ok name), _ :: outer =>
    if name ∈ names then .ok ⟨.choice name :: outer, .colon .unit⟩
    else .error (.mismatch (.unknownChoice name names))
  | .text (.error fault), _ => .error fault
  | .brokenText strict _, _ => .error strict
  | _, _ => .error .malformed

/-- One lexeme. -/
def step (state : ReaderState) (lexeme : Lexeme) : Except Fault ReaderState :=
  match state.await with
  | .value schema => begin schema state.stack lexeme
  | .itemOrEnd => match lexeme with
    | .closeBracket => closeBracket state.stack
    | _ => beginItem state.stack lexeme
  | .nameOrEnd => match lexeme with
    | .closeBrace => closeBrace state.stack
    | _ => beginMember state.stack lexeme
  | .name => beginMember state.stack lexeme
  | .choiceName names => nameChoice names state.stack lexeme
  | .colon schema => match lexeme with
    | .colon => .ok ⟨state.stack, .value schema⟩
    | _ => .error .malformed
  | .separator => match lexeme with
    | .comma => separate state.stack
    | .closeBracket => closeBracket state.stack
    | .closeBrace => closeBrace state.stack
    | _ => .error .malformed
  | .closingBrace => match lexeme with
    | .closeBrace => closeBrace state.stack
    | _ => .error .malformed
  | .nothing _ => .error .malformed

/-- The lexemes of a text, one after another. -/
def run (state : ReaderState) : List Lexeme → Except Fault ReaderState
  | [] => .ok state
  | lexeme :: rest =>
    match step state lexeme with
    | .ok next => run next rest
    | .error fault => .error fault

/-- The document, if it is complete. -/
def finish (state : ReaderState) : Except Fault Value :=
  match state.await with
  | .nothing value => .ok value
  | _ => .error .truncated

end Reader

/-- The value of a document that has the expected shape, in the form of its schema. -/
def Schema.read (schema : Schema) (text : String) : Except Fault Value :=
  (Reader.run ⟨[], .value schema⟩ (lexemes text.toList)).bind Reader.finish

/-- The value of a document of any shape. -/
def Value.read (text : String) : Except Fault Value := Schema.any.read text

end Gatehouse.Json
