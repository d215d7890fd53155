import Gatehouse.CommandLine.Arguments
import Gatehouse.CommandLine.Deployment
import Gatehouse.Run.Runner

/-!
# Verbs

What each verb does with a deployment. A verb prints one line or fails. The token is
verified before anything else of the deployment is looked at, so a token that is turned
away is turned away in the same words whatever the registry and the sandbox are. Only
one verb executes commands, with an executor that is handed in.
-/

namespace Gatehouse.CommandLine

/-- What an invocation takes from outside: the time, randomness, a way to execute commands under
limits, and a judge of which texts are patterns that a value in a journal can be held against. -/
structure Surroundings (ε : Type) where
  now : Instant
  entropy : Entropy ε
  executor : ExecutionLimits → Executor Host
  isPattern : String → Bool

/-- What came of a verb: its line or why there is none, the commands that were executed, and what
the journal says. -/
structure Performance where
  result : Except CommandError String
  executions : List Execution
  records : List Record
deriving Repr

namespace Performance

/-- A failure before any command is executed. -/
def failed (cause : CommandError) (records : List Record) : Performance :=
  ⟨.error cause, [], records⟩

/-- A line without any command. -/
def printed (line : String) (records : List Record) : Performance := ⟨.ok line, [], records⟩

end Performance

/-- A token that was verified, the verifier that did it, and the claims. -/
structure Authenticated where
  token : String
  verifier : Verifier
  claims : TaskClaims
deriving Repr

namespace Deployment

/-- Verify the token of an argument. The verb says how a refusal is reported. -/
def authenticate (deployment : Deployment) (argument : String)
    (refusal : TokenError → CommandError) : Except CommandError Authenticated := do
  let token ← deployment.token argument
  let verifier ← deployment.verifier
  let claims ← (verifier.verify token).mapError refusal
  return ⟨token, verifier, claims⟩

/-- The claims of a token on one line. -/
def verify (deployment : Deployment) (token : String) : Performance :=
  match deployment.authenticate token .verification with
  | .error cause => .failed cause []
  | .ok verified =>
    .printed verified.claims.render
      [⟨.info, "tollgate", "token verified", [("task_id", .text verified.claims.taskId)]⟩]

/-- A manifest and the token for its claims. -/
def issued (deployment : Deployment) (manifest : String) (privateKey : Option String) :
    Except CommandError (TaskClaims × String) := do
  let claims ← deployment.manifest manifest
  let issuer ← deployment.issuer privateKey
  let token ← (issuer.issue claims.toValue).mapError .issuing
  return (claims, token)

/-- The token for a manifest on one line. -/
def sign (deployment : Deployment) (manifest : String) (privateKey : Option String) :
    Performance :=
  match deployment.issued manifest privateKey with
  | .error cause => .failed cause []
  | .ok (claims, token) =>
    .printed token
      [⟨.info, "tollgate", "token issued", [
        ("task_id", .text claims.taskId),
        ("algorithm", .text deployment.settings.verifier.algorithm.name)]⟩]

/-- A task whose token is verified. The run verifies it once more. -/
structure Task where
  manifest : TaskClaims
  token : String
  verifier : Verifier

/-- The task of a manifest file and a token. -/
def task (deployment : Deployment) (manifest token : String) : Except CommandError Task := do
  let claims ← deployment.manifest manifest
  let verified ← deployment.authenticate token fun cause => .run (.token cause)
  return ⟨claims, verified.token, verified.verifier⟩

/-- What the journal says of a registry. -/
def registryRecord (path : String) (entries : List RegistryEntry) : Record :=
  ⟨.info, "tollgate", "registry loaded",
    [("path", .text path), ("entries", .ofNat entries.length)]⟩

variable {ε : Type}

/-- Run a task and print its event. -/
def run (deployment : Deployment) (manifest token : String) (registry : Option String)
    (surroundings : Surroundings ε) (state : Host × ε) : Performance × Host × ε :=
  match deployment.task manifest token with
  | .error cause => (.failed cause [], state)
  | .ok task =>
    match deployment.registryPath registry with
    | .error cause => (.failed cause [], state)
    | .ok path =>
      match deployment.registry path with
      | .error cause => (.failed cause [], state)
      | .ok entries =>
        match deployment.builder with
        | .error cause => (.failed cause [registryRecord path entries], state)
        | .ok builder =>
          let runner : Runner Host ε := ⟨⟨task.verifier.check, builder, entries⟩,
            surroundings.executor deployment.limits, surroundings.entropy⟩
          let (report, next) := runner.run task.manifest task.token surroundings.now state
          (⟨(report.result.map AuditEvent.render).mapError .run, report.executions,
            registryRecord path entries :: report.records⟩, next)

/-- Do what a verb says. -/
def perform (deployment : Deployment) (subcommand : Subcommand) (surroundings : Surroundings ε)
    (state : Host × ε) : Performance × Host × ε :=
  match subcommand with
  | .run manifest token registry => deployment.run manifest token registry surroundings state
  | .verify token => (deployment.verify token, state)
  | .sign manifest privateKey => (deployment.sign manifest privateKey, state)

end Deployment

end Gatehouse.CommandLine
