import Gatehouse.Json.Value

/-!
# The journal

Records of what a run did, for operators. A record names the part of the program it
comes from, a message, and fields with values. Nothing in the program reads the
journal: it is an output and no more.
-/

namespace Gatehouse

/-- How urgent a record is, the most urgent first. -/
inductive Level
  | error
  | warn
  | info
  | debug
deriving DecidableEq, Repr, Inhabited

namespace Level

/-- The name of a level in the journal. -/
def name : Level → String
  | .error => "ERROR"
  | .warn => "WARN"
  | .info => "INFO"
  | .debug => "DEBUG"

/-- The place of a level in the order of urgency. -/
def rank : Level → Nat
  | .error => 0
  | .warn => 1
  | .info => 2
  | .debug => 3

end Level

/-- A record of the journal. -/
structure Record where
  level : Level
  target : String
  message : String
  fields : List (String × Json.Value)
deriving Repr, Inhabited

/-- The fields of a record with its message among them. -/
def Record.toValue (record : Record) : Json.Value :=
  .object (record.fields.foldl (fun members field => Json.insert field.1 field.2 members)
    [("message", .text record.message)])

end Gatehouse
