import Gatehouse.Json.Value

/-!
# Schemas

The shape that a reader expects of a value. A record may be written as an object of
its fields in any order or as a list of them in declaration order; an optional field
that is absent takes the blank value of its shape. What a schema accepts is put into
one form: a record becomes the object of all its fields in declaration order, a table
an object sorted by name.

`conform?` takes a value that is already read into that form. It and the reader of
texts describe the same documents, the reader with the reasons for a refusal.
-/

namespace Gatehouse.Json

/-- The expected shape of a value. The fields of a record are named, marked as optional or not,
and have a shape each. -/
inductive Schema
  | any
  | ignored
  | unit
  | text
  | flag
  | integer (lower upper : Int) (title : String)
  | choice (names : List String)
  | list (entry : Schema)
  | table (entry : Schema)
  | record (title : String) (fields : List (String × Bool × Schema))
deriving Repr, Inhabited

namespace Schema

/-- A field of a record: its name, whether it may be absent, and its shape. -/
abbrev Field := String × Bool × Schema

/-- A field that must be present. -/
def required (name : String) (schema : Schema) : Field := (name, false, schema)

/-- A field that may be absent. -/
def optional (name : String) (schema : Schema) : Field := (name, true, schema)

/-- Naturals of 64 bits. -/
def unsigned64 : Schema := .integer 0 0xFFFFFFFFFFFFFFFF "u64"

/-- Integers of 32 bits. -/
def signed32 : Schema := .integer (-0x80000000) 0x7FFFFFFF "i32"

/-- The value of an absent optional field. -/
def blank : Schema → Value
  | .text => .text ""
  | .flag => .bool false
  | .integer .. => .ofNat 0
  | .list _ => .list []
  | .table _ => .object []
  | _ => .null

/-- The shape of the field of a name. -/
def fieldShape? (name : String) : List Field → Option Schema
  | [] => none
  | (first, _, schema) :: rest => if first = name then some schema else fieldShape? name rest

mutual

/-- The form of a value that has the expected shape. -/
def conform? : Schema → Value → Option Value
  | .any, value => some value
  | .ignored, _ => some .null
  | .unit, value => match value with
    | .null => some .null
    | _ => none
  | .text, value => match value with
    | .text content => some (.text content)
    | _ => none
  | .flag, value => match value with
    | .bool content => some (.bool content)
    | _ => none
  | .integer lower upper _, value => match value with
    | .number (.integer content) =>
      if lower ≤ content ∧ content ≤ upper then some (.number (.integer content)) else none
    | _ => none
  | .choice names, value => match value with
    | .text name => if name ∈ names then some (.text name) else none
    | .object [(name, .null)] => if name ∈ names then some (.text name) else none
    | _ => none
  | .list entry, value => match value with
    | .list items => (items.mapM fun item => conform? entry item).map .list
    | _ => none
  | .table entry, value => match value with
    | .object members =>
      (members.mapM fun (member : String × Value) =>
        (conform? entry member.2).map fun form => (member.1, form)).map .object
    | _ => none
  | .record _ fields, value => match value with
    | .object members => (conformMembers? fields members).map .object
    | .list items => (conformItems? fields items).map .object
    | _ => none

/-- The fields of a record, each looked up by its name. -/
def conformMembers? : List (String × Bool × Schema) → List (String × Value) →
    Option (List (String × Value))
  | [], _ => some []
  | (name, mayBeAbsent, schema) :: rest, members => do
    let value ← match find? name members with
      | some value => conform? schema value
      | none => if mayBeAbsent then some schema.blank else none
    return (name, value) :: (← conformMembers? rest members)

/-- The fields of a record, each taken from its place. -/
def conformItems? : List (String × Bool × Schema) → List Value → Option (List (String × Value))
  | [], [] => some []
  | [], _ :: _ => none
  | (name, mayBeAbsent, schema) :: rest, [] =>
    if mayBeAbsent then do return (name, schema.blank) :: (← conformItems? rest []) else none
  | (name, _, schema) :: rest, item :: items => do
    let value ← conform? schema item
    return (name, value) :: (← conformItems? rest items)

end

end Schema

end Gatehouse.Json
