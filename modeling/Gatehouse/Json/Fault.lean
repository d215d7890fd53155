import Gatehouse.Json.Value
import Gatehouse.Number.Shortest
import Gatehouse.Text.Quoted

/-!
# Why a text is not the expected document

A text fails in one of three ways: it ends too early, it breaks the grammar, or
it is well formed up to the place where it has another shape than the expected
one. Only the last way has a wording; its causes are listed here and worded in
one place.
-/

namespace Gatehouse.Json

/-- What stands in a text where something else is expected. -/
inductive Found
  | null
  | bool (value : Bool)
  | number (value : Number)
  | text (value : String)
  | list
  | object
deriving DecidableEq, Repr

/-- How a well-formed text has the wrong shape. -/
inductive Mismatch
  | wrongKind (found : Found) (expected : String)
  | outOfRange (value : Int) (expected : String)
  | tooShort (length : Nat) (title : String) (size : Nat)
  | missing (field : String)
  | repeated (field : String)
  | unknownChoice (found : String) (choices : List String)
deriving DecidableEq, Repr

/-- Why a text cannot be read. -/
inductive Fault
  | malformed
  | truncated
  | mismatch (cause : Mismatch)
deriving DecidableEq, Repr

/-- A number as documents and messages write it. -/
def Number.write : Number → List Char
  | .integer value => (toString value).toList
  | .float value => Gatehouse.Number.writeBinary64 value

/-- What was found, in the words of a message. -/
def Found.describe : Found → String
  | .null => "null"
  | .bool true => "boolean `true`"
  | .bool false => "boolean `false`"
  | .number (.integer value) => "integer `" ++ toString value ++ "`"
  | .number (.float value) =>
    "floating point `" ++ String.ofList (Gatehouse.Number.writeBinary64 value) ++ "`"
  | .text value => "string " ++ Text.Quoted.encode value
  | .list => "sequence"
  | .object => "map"

/-- The choices of a field in the words of a message. -/
def describeChoices : List String → String
  | [] => "there are no variants"
  | [only] => "expected `" ++ only ++ "`"
  | [first, second] => "expected `" ++ first ++ "` or `" ++ second ++ "`"
  | choices => "expected one of " ++ ", ".intercalate (choices.map fun name => "`" ++ name ++ "`")

/-- The message of a mismatch. -/
def Mismatch.message : Mismatch → String
  | .wrongKind found expected => "invalid type: " ++ found.describe ++ ", expected " ++ expected
  | .outOfRange value expected =>
    "invalid value: integer `" ++ toString value ++ "`, expected " ++ expected
  | .tooShort length title size =>
    "invalid length " ++ toString length ++ ", expected struct " ++ title ++ " with " ++
      toString size ++ (if size = 1 then " element" else " elements")
  | .missing field => "missing field `" ++ field ++ "`"
  | .repeated field => "duplicate field `" ++ field ++ "`"
  | .unknownChoice found choices =>
    "unknown variant `" ++ found ++ "`, " ++ describeChoices choices

end Gatehouse.Json
