import Gatehouse.Sandbox.Builder
import Gatehouse.Token.Basic

/-!
# Settings

What a deployment sets: the pinned algorithm and where its key is, the sandbox, the
limits of an execution, and a few places in the file system. Every setting has a
default, so an empty document is a complete one.
-/

namespace Gatehouse

/-- How tokens are verified. The secret itself is no setting, only the name it goes by. -/
structure VerifierSettings where
  algorithm : Algorithm := .hs256
  secretName : String := "TOLLGATE_HMAC_SECRET"
  publicKeyPath : Option String := none
deriving DecidableEq, Repr, Inhabited

/-- The limits of an execution: its time, and the octets that are kept of each stream. -/
structure ExecutionSettings where
  timeoutSeconds : UInt64 := 300
  maxOutputBytes : UInt64 := 1048576
deriving DecidableEq, Repr, Inhabited

/-- Places in the file system. Without a directory for logs nothing is written to files. -/
structure PathSettings where
  registry : Option String := none
  logs : Option String := none
deriving DecidableEq, Repr, Inhabited

/-- The settings of a deployment. -/
structure Settings where
  verifier : VerifierSettings := {}
  sandbox : SandboxSettings := {}
  execution : ExecutionSettings := {}
  paths : PathSettings := {}
deriving DecidableEq, Repr, Inhabited

/-- A setting that nothing can be run with. -/
inductive SettingsError
  | timeoutZero
  | outputZero
  | secretUnnamed
deriving DecidableEq, Repr

/-- The words for an error. -/
def SettingsError.message : SettingsError → String
  | .timeoutZero => "executor.timeout_secs must be greater than zero"
  | .outputZero => "executor.max_output_bytes must be greater than zero"
  | .secretUnnamed => "verifier.hmac_secret_env must name an environment variable"

namespace Settings

/-- The first setting that nothing can be run with is refused. A secret needs a name only under the
algorithm that uses one. -/
def validate (settings : Settings) : Except SettingsError Unit :=
  if settings.execution.timeoutSeconds = 0 then .error .timeoutZero
  else if settings.execution.maxOutputBytes = 0 then .error .outputZero
  else if settings.verifier.algorithm = .hs256 ∧ settings.verifier.secretName = "" then
    .error .secretUnnamed
  else .ok ()

/-- Where the registry is; by default below a directory for settings. -/
def registryPath (settings : Settings) (directory : String) : String :=
  settings.paths.registry.getD (directory ++ "/armory/registry.json")

end Settings

end Gatehouse
