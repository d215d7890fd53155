import Gatehouse.Number.Binary64

/-!
# JSON values

The value of a JSON document. Numbers keep the distinction that the text makes:
an integer that fits 64 bits stays exact, every other number is a binary floating
point number. An object is a list of members; `insert` keeps such a list sorted by
name without two members of one name, which is the form that every object read
from a text has. Records write their members in an order of their own.
-/

namespace Gatehouse.Json

/-- A number: an integer between `-2 ^ 63` and `2 ^ 64 - 1`, or a floating point number. -/
inductive Number
  | integer (value : Int)
  | float (value : Binary64)
deriving DecidableEq, Repr, Inhabited

/-- A JSON value. -/
inductive Value
  | null
  | bool (value : Bool)
  | number (value : Number)
  | text (value : String)
  | list (items : List Value)
  | object (members : List (String × Value))
deriving Repr, Inhabited

/-- Put a member into a list sorted by name, in the place of the member of that name if there is
one. So of several members of one name the last one read stays. -/
def insert {α : Type} (name : String) (value : α) : List (String × α) → List (String × α)
  | [] => [(name, value)]
  | (first, old) :: rest =>
    if name < first then (name, value) :: (first, old) :: rest
    else if name = first then (name, value) :: rest
    else (first, old) :: insert name value rest

/-- The value of the first member of a name. -/
def find? {α : Type} (name : String) : List (String × α) → Option α
  | [] => none
  | (first, value) :: rest => if first = name then some value else find? name rest

namespace Value

/-- The member of a name, or `null` where the value holds none. -/
def member (value : Value) (name : String) : Value :=
  match value with
  | .object members => (find? name members).getD .null
  | _ => .null

/-- The text that a value is, or the empty text. -/
def asText : Value → String
  | .text value => value
  | _ => ""

/-- The truth value that a value is, or `false`. -/
def asBool : Value → Bool
  | .bool value => value
  | _ => false

/-- The integer that a value is, or zero. -/
def asInteger : Value → Int
  | .number (.integer value) => value
  | _ => 0

/-- The items of a list, or none. -/
def asList : Value → List Value
  | .list items => items
  | _ => []

/-- The members of an object, or none. -/
def asMembers : Value → List (String × Value)
  | .object members => members
  | _ => []

/-- The value of a natural number. -/
def ofNat (value : Nat) : Value := .number (.integer value)

/-- The value of an integer. -/
def ofInt (value : Int) : Value := .number (.integer value)

end Value

end Gatehouse.Json
