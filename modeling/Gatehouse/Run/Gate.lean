import Gatehouse.Run.Error
import Gatehouse.Sandbox.Builder
import Gatehouse.Token.Verifier

/-!
# The gate

Everything that is decided before a command runs: the token, its agreement with the
manifest, the tool, the command and the guard, in this order. The first check that fails
decides. All of it is a function of the inputs, so nothing has run and no randomness is
drawn when a task is turned away.
-/

namespace Gatehouse

/-- What decides whether a token is valid, and under which algorithm. -/
structure TokenCheck where
  algorithm : Algorithm
  verify : String → Except TokenError TaskClaims

/-- The check that a verifier makes. -/
def Verifier.check (verifier : Verifier) : TokenCheck := ⟨verifier.algorithm, verifier.verify⟩

/-- What a task has to pass. The registry is a snapshot. -/
structure Gate where
  token : TokenCheck
  builder : Builder
  registry : List RegistryEntry

/-- A task that passed: the verified claims, the tool and the command that was built from both. -/
structure Admitted where
  claims : TaskClaims
  tool : RegistryEntry
  command : Command
deriving Repr

namespace Gate

/-- The checks in their order. Behind the second one nothing of the manifest is left. -/
def pass (gate : Gate) (manifest : TaskClaims) (token : String) : Except RunError Admitted := do
  let verified ← (gate.token.verify token).mapError .token
  let claims ← (reconcile manifest verified).mapError .manifest
  let tool ← (Registry.resolve claims.toolDigest gate.registry).mapError .authorization
  let command ← (gate.builder.build tool claims).mapError .sandbox
  (checkBreakout command).mapError .sandbox
  return ⟨claims, tool, command⟩

/-- What the journal says of a token that is verified. -/
def verifiedRecord (gate : Gate) (claims : TaskClaims) : Record where
  level := .info
  target := "tollgate::pipeline"
  message := "token verified"
  fields := [
    ("task_id", .text claims.taskId),
    ("tenant_id", .text claims.tenantId),
    ("algorithm", .text gate.token.algorithm.name)]

/-- What the journal says of a tool that may be run. -/
def authorizedRecord (tool : RegistryEntry) : Record where
  level := .info
  target := "tollgate::pipeline"
  message := "tool authorized"
  fields := [
    ("tool", .text tool.toolName),
    ("digest", .text (Sandbox.digestPrefix tool.toolDigest))]

/-- What the journal says of the checks, as far as they go. -/
def records (gate : Gate) (manifest : TaskClaims) (token : String) : List Record :=
  match gate.token.verify token with
  | .error _ => []
  | .ok verified =>
    match reconcile manifest verified with
    | .error _ => []
    | .ok claims =>
      gate.verifiedRecord claims ::
        match Registry.resolve claims.toolDigest gate.registry with
        | .error _ => Registry.refusalRecords claims.toolDigest gate.registry
        | .ok tool =>
          authorizedRecord tool ::
            match gate.builder.build tool claims with
            | .error _ => []
            | .ok _ => gate.builder.records tool claims

end Gate

end Gatehouse
