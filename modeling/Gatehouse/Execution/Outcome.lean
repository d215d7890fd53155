/-!
# Outcomes of commands

A command that ran to its end has an outcome, whatever its exit code: a code other
than zero is the report of the tool. An error means that there is no such report.
-/

namespace Gatehouse

/-- What a command that ran to its end left behind. -/
structure Outcome where
  exitCode : Int32
  stdout : String := ""
  stderr : String := ""
  stdoutTruncated : Bool := false
  stderrTruncated : Bool := false
  milliseconds : Nat := 0
deriving DecidableEq, Repr, Inhabited

/-- Whether the tool reports success. -/
def Outcome.success (outcome : Outcome) : Bool := outcome.exitCode == 0

/-- Why a command has no outcome. -/
inductive ExecutionError
  | emptyCommand
  | launchFailed (reason : String)
  | timeout (seconds : Nat)
deriving DecidableEq, Repr

namespace ExecutionError

/-- The name of the kind of an error. -/
def kind : ExecutionError → String
  | .emptyCommand => "empty_command"
  | .launchFailed _ => "launch_failed"
  | .timeout _ => "timeout"

/-- The words for an error. -/
def message : ExecutionError → String
  | .emptyCommand => "command is empty"
  | .launchFailed reason => "sandbox launch failed: " ++ reason
  | .timeout seconds => "command timed out after " ++ toString seconds ++ "s"

end ExecutionError

end Gatehouse
