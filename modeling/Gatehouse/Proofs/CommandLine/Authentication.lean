import Gatehouse.Proofs.CommandLine.Preparation
import Gatehouse.Proofs.CommandLine.Stages
import Gatehouse.Proofs.Run.Attestation
import Gatehouse.Proofs.Run.Removal

/-!
# The token decides first

A run verifies its token before it looks for the registry and the sandbox, and reports a
refusal in the same words whatever these are. The verb that only verifies makes the same
verifier from the same sources, so it comes to the same verdict. Behind the gate a token
is verified once more; both verifications are of one text with one key, so the second
one agrees with the first, and a run whose token was accepted is never refused for it.
-/

namespace Gatehouse

/-- No failure of another stage has the tag of a refused token, as no tag is used by two stages. -/
theorem RunError.kind_ne_of_not_token {error : RunError} (other : ∀ cause, error ≠ .token cause)
    (cause : TokenError) : error.kind ≠ cause.kind := by
  cases error with
  | token inner => exact absurd rfl (other inner)
  | manifest mismatch => cases cause <;> simp [kind, TokenError.kind]
  | authorization inner =>
    cases inner
    cases cause <;> simp [kind, AuthorizationError.kind, TokenError.kind]
  | sandbox inner => cases inner <;> cases cause <;> simp [kind, SandboxError.kind, TokenError.kind]
  | execution inner =>
    cases inner <;> cases cause <;> simp [kind, ExecutionError.kind, TokenError.kind]
  | event inner =>
    cases inner
    cases cause <;> simp [kind, EventError.kind, TokenError.kind]

namespace Runner

variable {σ ε : Type} {runner : Runner σ ε}

/-- A launch fails for its execution only, be it an error of the executor or a code of the
launcher. -/
theorem execution_of_launch {admitted : Admitted} {state : σ} {error : RunError}
    (failed : (runner.launch admitted state).1.result = .error error) :
    ∃ cause, error = .execution cause := by
  unfold launch at failed
  dsimp only at failed
  split at failed
  · split at failed
    · exact ⟨_, (Except.error.inj failed).symm⟩
    · cases failed
  · exact ⟨_, (Except.error.inj failed).symm⟩
  · exact ⟨_, (Except.error.inj failed).symm⟩

/-- A run that fails is refused at its gate, or fails for its execution or its event. By cases on
how far it gets. -/
theorem refuses_of_run {manifest : TaskClaims} {token : String} {now : Instant} {state : σ × ε}
    {error : RunError} (failed : (runner.run manifest token now state).1.result = .error error) :
    runner.gate.Refuses manifest token error ∨ (∃ cause, error = .execution cause) ∨
      ∃ cause, error = .event cause := by
  rcases runner.gate.admits_or_refuses manifest token with ⟨admitted, admits⟩ | ⟨reason, refused⟩
  · refine .inr ?_
    cases launched : (runner.launch admitted state.1).1.result with
    | error cause =>
      have reported := (run_of_failed admits launched now).1
      obtain rfl := Except.error.inj (reported.symm.trans failed)
      exact .inl (execution_of_launch launched)
    | ok outcome =>
      obtain ⟨executed, finished⟩ := finished_of_launch launched
      rw [run_of_finished admits executed finished now] at failed
      cases drawn : (runner.entropy state.2).1 with
      | none =>
        rw [drawn] at failed
        exact .inr ⟨_, (Except.error.inj failed).symm⟩
      | some seed =>
        rw [drawn] at failed
        cases failed
  · rw [run_of_refuses refused now state] at failed
    obtain rfl := Except.error.inj failed
    exact .inl refused

/-- A run of a token that is verified is not refused for the token: the gate verifies it with the
same verifier, and comes to the same verdict. -/
theorem run_ne_token {manifest verified : TaskClaims} {token : String}
    (vouched : runner.gate.token.verify token = .ok verified) (now : Instant) (state : σ × ε)
    (cause : TokenError) :
    (runner.run manifest token now state).1.result ≠ .error (.token cause) := by
  intro refusedToken
  rcases refuses_of_run refusedToken with refused | ⟨inner, same⟩ | ⟨inner, same⟩
  · cases refused with
    | token rejected => cases rejected.symm.trans vouched
  · cases same
  · cases same

end Runner

namespace CommandLine

namespace Deployment

/-- Two deployments verify tokens with the same: the settings of the verifier, the secret that they
name, and the text of the public key. Nothing else of the settings, the secrets, the environment
and the files has to agree. -/
structure SameCredentials (deployment other : Deployment) : Prop where
  settings : deployment.settings.verifier = other.settings.verifier
  secret : deployment.settings.verifier.secret deployment.secrets deployment.environment =
    other.settings.verifier.secret other.secrets other.environment
  publicKey : deployment.settings.verifier.publicKeyText deployment.system =
    other.settings.verifier.publicKeyText other.system

/-- The same credentials make the same verifier, since nothing else is looked at to make one. -/
theorem SameCredentials.verifier_eq {deployment other : Deployment}
    (same : deployment.SameCredentials other) : deployment.verifier = other.verifier := by
  have sameVerifier (publicKey : Option String) :
      deployment.settings.verifier.verifier deployment.secrets deployment.environment publicKey =
        other.settings.verifier.verifier other.secrets other.environment publicKey := by
    have sameSecret := same.secret
    rw [← same.settings] at sameSecret ⊢
    simp only [VerifierSettings.verifier, sameSecret]
  simp only [Deployment.verifier, VerifierSettings.load, same.publicKey, funext sameVerifier]

variable {ε : Type} {deployment : Deployment} {manifest argument token : String}
  {registry : Option String} {verifier : Verifier}

/-- A run of a token that is turned away fails for that, whatever its registry and its sandbox
are. -/
theorem run_of_rejected (registry : Option String) {claims : TaskClaims} {cause : TokenError}
    (read : deployment.manifest manifest = .ok claims)
    (presents : deployment.Presents argument token verifier)
    (rejected : verifier.verify token = .error cause) (surroundings : Surroundings ε)
    (state : Host × ε) :
    deployment.run manifest argument registry surroundings state =
      (.failed (.run (.token cause)) [], state) := by
  simp only [run, task, read, authenticate_of_rejected presents rejected, bind, Except.bind]

/-- Verifying a token that is turned away prints nothing and fails for the same reason. -/
theorem verify_of_rejected {cause : TokenError}
    (presents : deployment.Presents argument token verifier)
    (rejected : verifier.verify token = .error cause) :
    (deployment.verify argument).result = .error (.verification cause) := by
  rw [verify, authenticate_of_rejected presents rejected]
  rfl

/-- Verifying a token that is accepted prints its claims, and needs nothing else of the
deployment. -/
theorem verify_of_accepted {verified : TaskClaims}
    (presents : deployment.Presents argument token verifier)
    (accepted : verifier.verify token = .ok verified) :
    (deployment.verify argument).result = .ok verified.render := by
  rw [verify, authenticate_of_accepted presents accepted]
  rfl

/-- A run of a token that is accepted does not fail with a tag of a refused token. It may stop at
another part that it is put together from, or fail in its pipeline, and neither has such a tag. -/
theorem run_kind_ne {verified : TaskClaims} (presents : deployment.Presents argument token verifier)
    (accepted : verifier.verify token = .ok verified) (surroundings : Surroundings ε)
    (state : Host × ε) {failure : CommandError}
    (failed : (deployment.run manifest argument registry surroundings state).1.result =
      .error failure) (cause : TokenError) : failure.kind ≠ some cause.kind := by
  have input : some "invalid_input" ≠ some cause.kind := by cases cause <;> decide
  have unavailable : some "registry_unavailable" ≠ some cause.kind := by cases cause <;> decide
  rcases stops_of_run failed with stops | ⟨ready, error, readies, reported, rfl⟩
  · cases stops with
    | rejected read presentsToo rejected =>
      obtain rfl := Except.ok.inj (presents.token.symm.trans presentsToo.token)
      obtain rfl := Except.ok.inj (presents.verifier.symm.trans presentsToo.verifier)
      cases accepted.symm.trans rejected
    | registry => exact unavailable
    | manifest | token | publicKey | homeless | sandbox => exact input
  · obtain ⟨again, acceptedAgain⟩ := readies.authenticates.accepted
    have notToken (inner : TokenError) : error ≠ .token inner := by
      rintro rfl
      exact Runner.run_ne_token acceptedAgain surroundings.now state inner reported
    exact fun same => error.kind_ne_of_not_token notToken cause (Option.some.inj same)

end Deployment

/-- An invocation runs a task whose manifest can be read and whose argument gives a token that
there is a verifier for, on a station where all is prepared. Its registry and its sandbox may be
anything, and need not be there. -/
structure Station.Submits {ε : Type} (station : Station) (surroundings : Surroundings ε)
    (invocation : Invocation) (argument : String) (prepared : Prepared) (token : String)
    (verifier : Verifier) : Prop where
  prepares : station.Prepares surroundings invocation.settingsPath prepared
  task : ∃ manifest registry claims, invocation.subcommand = .run manifest argument registry ∧
    prepared.deployment.manifest manifest = .ok claims
  presents : prepared.deployment.Presents argument token verifier

/-- The answer to a token that is turned away. -/
structure Answer.Rejects (answer : Answer) (cause : TokenError) : Prop where
  exitCode : answer.exitCode = 3
  kind : answer.kind? = some cause.kind
  stdout : answer.stdout = ""
  executions : answer.executions = []

namespace Station

variable {ε δ : Type} {station : Station} {surroundings : Surroundings ε}
  {invocation : Invocation} {argument token : String} {prepared : Prepared} {verifier : Verifier}

/-- What a run answers to a token that is turned away, in full: the refusal, no executions, and what
the journal says in front of any verb. The host is left as it was prepared, and no seed is drawn. -/
theorem Submits.perform_of_rejected {cause : TokenError}
    (submits : station.Submits surroundings invocation argument prepared token verifier)
    (rejected : verifier.verify token = .error cause) (seeds : ε) :
    (invocation.perform surroundings (station, seeds)).1 =
        .ofPerformance prepared.filter
          (.failed (.run (.token cause)) (secretsRecords prepared.host)) ∧
      (invocation.perform surroundings (station, seeds)).2.1.host = prepared.host ∧
      (invocation.perform surroundings (station, seeds)).2.2 = seeds := by
  obtain ⟨manifest, registry, claims, runs, read⟩ := submits.task
  have result := Deployment.run_of_rejected registry read submits.presents rejected surroundings
    (prepared.host, seeds)
  rw [Invocation.perform_of_prepares submits.prepares]
  simp only [Deployment.perform, runs, result, Performance.failed, List.append_nil]
  refine ⟨trivial, ?_, trivial⟩
  unfold keep
  split <;> rfl

/-- A run whose journal was set up comes to the verdict of its token before it looks for anything
else. If the token is turned away, the run exits with code 3 and the tag of the refusal, prints
nothing and executes nothing, and so does any other run that brings this token to the same
credentials, whatever its manifest, registry, sandbox, limits and surroundings are; verifying the
token on the same station ends with the same code and tag. If the token is accepted, verifying it
succeeds, and the run does not fail with a tag of a refused token. -/
theorem run_authenticates_first (seeds : ε)
    (submits : station.Submits surroundings invocation argument prepared token verifier) :
    let answer := invocation.perform surroundings (station, seeds)
    let verification := (Invocation.perform ⟨invocation.settingsPath, .verify argument⟩
      surroundings (station, seeds)).1
    (∀ cause, verifier.verify token = .error cause →
      answer.1.Rejects cause ∧ answer.2.1.host = prepared.host ∧ answer.2.2 = seeds ∧
      verification.exitCode = 3 ∧ verification.kind? = some cause.kind ∧
      ∀ (other : Station) (around : Surroundings δ) (request : Invocation) (argument' : String)
        (prepared' : Prepared) (verifier' : Verifier) (seeds' : δ),
        other.Submits around request argument' prepared' token verifier' →
        prepared.deployment.SameCredentials prepared'.deployment →
        let answer' := (request.perform around (other, seeds')).1
        answer'.result = answer.1.result ∧ answer'.executions = answer.1.executions ∧
          (prepared'.filter = prepared.filter →
            secretsRecords prepared'.host = secretsRecords prepared.host → answer' = answer.1)) ∧
    (∀ verified, verifier.verify token = .ok verified →
      verification.exitCode = 0 ∧ ∀ cause : TokenError, answer.1.kind? ≠ some cause.kind) := by
  intro answer verification
  have verifies : verification.result = (prepared.deployment.verify argument).result :=
    (Invocation.result_of_prepares ⟨invocation.settingsPath, .verify argument⟩ submits.prepares
      seeds).1
  constructor
  · intro cause rejected
    have refused : verification.result = .error (.verification cause) := by
      rw [verifies, Deployment.verify_of_rejected submits.presents rejected]
    obtain ⟨given, sameHost, sameSeeds⟩ := submits.perform_of_rejected rejected seeds
    have rejects : answer.1.Rejects cause := given ▸ ⟨rfl, rfl, rfl, rfl⟩
    refine ⟨rejects, sameHost, sameSeeds, Answer.exitCode_of_error refused,
      Answer.kind?_of_error refused, ?_⟩
    intro other around request argument' prepared' verifier' seeds' submitsToo same answer'
    obtain rfl : verifier = verifier' := by
      have sameVerifier := same.verifier_eq
      rw [submits.presents.verifier, submitsToo.presents.verifier] at sameVerifier
      exact Except.ok.inj sameVerifier
    have givenToo : answer' = _ := (submitsToo.perform_of_rejected rejected seeds').1
    have first : answer.1.result = .error (.run (.token cause)) := given ▸ rfl
    have second : answer'.result = .error (.run (.token cause)) := givenToo ▸ rfl
    have idle : answer'.executions = [] := givenToo ▸ rfl
    refine ⟨second.trans first.symm, idle.trans rejects.executions.symm,
      fun sameFilter sameRecords => ?_⟩
    rw [givenToo, sameFilter, sameRecords]
    exact given.symm
  · intro verified accepted
    have printed : verification.result = .ok verified.render := by
      rw [verifies, Deployment.verify_of_accepted submits.presents accepted]
    refine ⟨Answer.exitCode_of_ok printed, fun cause => ?_⟩
    obtain ⟨manifest, registry, claims, runs, read⟩ := submits.task
    have result := (Invocation.result_of_prepares invocation submits.prepares seeds).1
    rw [runs] at result
    cases performed : answer.1.result with
    | ok line =>
      rw [Answer.kind?_of_ok performed]
      exact nofun
    | error failure =>
      rw [Answer.kind?_of_error performed]
      exact Deployment.run_kind_ne submits.presents accepted surroundings _
        (result.symm.trans performed) cause

/-- A text that is no token, brought to the sample station with and without a registry: both runs
and the verification are rejected for it, and neither registry is looked for. -/
theorem run_authenticates_first_sample :
    let run (registry : Option String) : Invocation := ⟨none, .run "task.json" " text\n" registry⟩
    let answer (invocation : Invocation) := (invocation.perform .sample (sample, ())).1
    (answer (run none)).Rejects .malformedToken ∧
      (answer ⟨none, .verify " text\n"⟩).exitCode = 3 ∧
      answer (run (some "missing.json")) = answer (run none) := by
  intro run answer
  obtain ⟨claims, read⟩ := sample_manifest
  have submits (registry : Option String) : sample.Submits .sample (run registry) " text\n"
      samplePrepared "text" (.hs256 [0x6B]) :=
    ⟨sample_prepares _, ⟨_, registry, claims, rfl, read⟩, rfl, rfl⟩
  obtain ⟨rejects, -, -, exitCode, -, same⟩ :=
    (run_authenticates_first () (submits none)).1 .malformedToken rfl
  obtain ⟨-, -, whole⟩ :=
    same sample .sample _ _ _ _ () (submits (some "missing.json")) ⟨rfl, rfl, rfl⟩
  exact ⟨rejects, exitCode, whole rfl rfl⟩

/-- What can be read, found and loaded is not enough for the token to decide: where the directory
for logs cannot be made, a text that is no token is turned away by neither verb. Both end before
they look at it. -/
theorem undecided_without_logs :
    let answer (subcommand : Subcommand) :=
      (Invocation.perform ⟨some "config.toml", subcommand⟩ .sample (misplaced, ())).1
    (∃ deployment : Deployment, deployment.host = misplaced.host ∧
      loadSettings misplaced.host (some "config.toml") = .ok deployment.settings ∧
      loadSecrets misplaced.host = .ok deployment.secrets ∧
      (∃ claims, deployment.manifest "task.json" = .ok claims) ∧
      deployment.Presents "text" "text" (.hs256 [0x6B]) ∧
      (Verifier.hs256 [0x6B]).verify "text" = .error .malformedToken) ∧
    (answer (.run "task.json" "text" none)).exitCode = 2 ∧
    (answer (.run "task.json" "text" none)).kind? = none ∧
    (answer (.verify "text")).exitCode = 2 ∧ (answer (.verify "text")).kind? = none := by
  intro answer
  obtain ⟨claims, read⟩ := misplaced_manifest
  refine ⟨⟨misplacedDeployment, rfl, misplaced_settings, rfl, ⟨claims, read⟩, ⟨rfl, rfl⟩, rfl⟩,
    ?_, ?_, ?_, ?_⟩ <;> decide +kernel

end Station

end CommandLine

end Gatehouse
