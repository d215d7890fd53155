import Gatehouse.Environment
import Gatehouse.Settings.Basic
import Gatehouse.Text.Decimal

/-!
# Overrides

Five settings may be replaced from the environment, each by a variable of its own and
none by another's. A value that does not fit its setting is passed over.
-/

namespace Gatehouse

namespace Settings

/-- The value of a variable, if it is set and fits, in the place of the one at hand. -/
def overridden {α : Type} (given : Option String) (parse? : String → Option α) (current : α) :
    α :=
  (given.bind parse?).getD current

/-- The settings under an environment. -/
def override (settings : Settings) (environment : Environment) : Settings := {
  settings with
  verifier := { settings.verifier with
    algorithm := overridden (environment "TOLLGATE_ALGORITHM") Algorithm.ofName?
      settings.verifier.algorithm
    publicKeyPath := overridden (environment "TOLLGATE_PUBLIC_KEY_PATH")
      (fun path => some (some path)) settings.verifier.publicKeyPath }
  sandbox := { settings.sandbox with
    backend := overridden (environment "TOLLGATE_SANDBOX_BACKEND") Backend.ofName?
      settings.sandbox.backend }
  execution := { settings.execution with
    timeoutSeconds := overridden (environment "TOLLGATE_TIMEOUT_SECS") Text.parseUnsigned64?
      settings.execution.timeoutSeconds }
  paths := { settings.paths with
    registry := overridden (environment "TOLLGATE_REGISTRY")
      (fun path => some (some path)) settings.paths.registry } }

end Settings

end Gatehouse
