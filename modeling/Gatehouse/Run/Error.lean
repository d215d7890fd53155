import Gatehouse.Audit.Event
import Gatehouse.Claims
import Gatehouse.Command
import Gatehouse.Execution.Outcome
import Gatehouse.Registry
import Gatehouse.Token.Basic

/-!
# Why a run has no event

Each stage of a run fails in its own way. The stage decides the exit code, and whether
untrusted input was turned away or the machinery failed.
-/

namespace Gatehouse

/-- The failure of one stage of a run. -/
inductive RunError
  | token (cause : TokenError)
  | manifest (cause : ManifestMismatch)
  | authorization (cause : AuthorizationError)
  | sandbox (cause : SandboxError)
  | execution (cause : ExecutionError)
  | event (cause : EventError)
deriving DecidableEq, Repr

namespace RunError

/-- The stable tag of an error. -/
def kind : RunError → String
  | .token cause => cause.kind
  | .manifest _ => "manifest_mismatch"
  | .authorization cause => cause.kind
  | .sandbox cause => cause.kind
  | .execution cause => cause.kind
  | .event cause => cause.kind

/-- What the stage itself says. -/
def causeMessage : RunError → String
  | .token cause => cause.message
  | .manifest cause => cause.message
  | .authorization cause => cause.message
  | .sandbox cause => cause.message
  | .execution cause => cause.message
  | .event cause => cause.message

/-- The message of an error. That of a mismatch speaks for itself. -/
def message : RunError → String
  | .token cause => "token rejected: " ++ cause.message
  | .manifest cause => cause.message
  | .authorization cause => "tool rejected: " ++ cause.message
  | .sandbox cause => "sandbox rejected: " ++ cause.message
  | .execution cause => "execution failed: " ++ cause.message
  | .event cause => "event mapping failed: " ++ cause.message

/-- The exit code of a failed stage. -/
def exitCode : RunError → UInt8
  | .token _ | .manifest _ => 3
  | .authorization _ => 5
  | .sandbox _ | .execution _ => 6
  | .event _ => 7

/-- Whether untrusted input was turned away. A key or a setting that is wrong is a fault of the
deployment, and so is what happens behind the guard. -/
def isSecurityRejection : RunError → Bool
  | .token .missingKeyMaterial | .token .invalidKeyMaterial => false
  | .token _ | .manifest _ | .authorization _ => true
  | .sandbox (.invalidProfile _) => false
  | .sandbox _ => true
  | .execution _ | .event _ => false

end RunError

end Gatehouse
