import Gatehouse.CommandLine.Verbs
import Gatehouse.Proofs.Result
import Gatehouse.Proofs.Text.Blank
import Gatehouse.Proofs.Token.RoundTrip

/-!
# The stages of a command that runs a task

A run is put together from the files that its deployment names: the manifest, the token,
the key, the registry and the sandbox, in this order, and the token is verified before
the registry is looked for. Either everything is at hand, and the runner decides; or the
first part that is missing or turned away decides, and nothing of what stands behind it
has been looked at.
-/

namespace Gatehouse.CommandLine

/-- What a run is put together from. -/
structure Ready where
  task : Deployment.Task
  registry : List RegistryEntry
  builder : Builder

variable {ε : Type}

/-- The runner that is put together, with the limits of a deployment and the executor and the source
of randomness that its surroundings have. -/
def Ready.runner (ready : Ready) (deployment : Deployment) (surroundings : Surroundings ε) :
    Runner Host ε :=
  ⟨⟨ready.task.verifier.check, ready.builder, ready.registry⟩,
    surroundings.executor deployment.limits, surroundings.entropy⟩

namespace Deployment

variable {deployment : Deployment} {manifest argument : String} {registry : Option String}

/-- An argument gives a token, and there is a verifier for it. -/
structure Presents (deployment : Deployment) (argument token : String) (verifier : Verifier) :
    Prop where
  token : deployment.token argument = .ok token
  verifier : deployment.verifier = .ok verifier

/-- A task is authenticated: its manifest can be read, and its verifier accepts its token. -/
structure Authenticates (deployment : Deployment) (manifest argument : String) (task : Task) :
    Prop where
  manifest : deployment.manifest manifest = .ok task.manifest
  presents : deployment.Presents argument task.token task.verifier
  accepted : ∃ verified, task.verifier.verify task.token = .ok verified

/-- The registry that is asked for has a place, and gives entries there. -/
structure Registers (deployment : Deployment) (registry : Option String) (path : String)
    (entries : List RegistryEntry) : Prop where
  placed : deployment.registryPath registry = .ok path
  read : deployment.registry path = .ok entries

/-- Everything that a run is put together from is at hand. -/
structure Readies (deployment : Deployment) (manifest argument : String)
    (registry : Option String) (ready : Ready) : Prop where
  authenticates : deployment.Authenticates manifest argument ready.task
  registers : ∃ path, deployment.Registers registry path ready.registry
  builder : deployment.builder = .ok ready.builder

/-- The first part of a run that is missing or turned away, in the order in which they are looked
at. -/
inductive Stops (deployment : Deployment) (manifest argument : String)
    (registry : Option String) : CommandError → Prop
  | manifest {cause : DocumentError Json.Fault}
      (unread : deployment.document manifest TaskClaims.read = .error cause) :
      Stops deployment manifest argument registry (.manifest manifest cause)
  | token {claims : TaskClaims} {path : String} {cause : FileError}
      (read : deployment.manifest manifest = .ok claims)
      (ungiven : deployment.token argument = .error (.tokenFile path cause)) :
      Stops deployment manifest argument registry (.tokenFile path cause)
  | publicKey {claims : TaskClaims} {token : String} {cause : VerifierSettings.KeyFileError}
      (read : deployment.manifest manifest = .ok claims)
      (given : deployment.token argument = .ok token)
      (unkeyed : deployment.verifier = .error (.publicKey cause)) :
      Stops deployment manifest argument registry (.publicKey cause)
  | rejected {claims : TaskClaims} {token : String} {verifier : Verifier} {cause : TokenError}
      (read : deployment.manifest manifest = .ok claims)
      (presents : deployment.Presents argument token verifier)
      (rejected : verifier.verify token = .error cause) :
      Stops deployment manifest argument registry (.run (.token cause))
  | homeless {task : Task} (authenticates : deployment.Authenticates manifest argument task)
      (unplaced : deployment.registryPath registry = .error .homeless) :
      Stops deployment manifest argument registry .homeless
  | registry {task : Task} {path : String} {cause : DocumentError Json.Fault}
      (authenticates : deployment.Authenticates manifest argument task)
      (placed : deployment.registryPath registry = .ok path)
      (unread : deployment.document path Registry.read = .error cause) :
      Stops deployment manifest argument registry (.registry path cause)
  | sandbox {task : Task} {path : String} {entries : List RegistryEntry} {cause : SandboxError}
      (authenticates : deployment.Authenticates manifest argument task)
      (registers : deployment.Registers registry path entries)
      (unbuilt : Sandbox.builder deployment.settings.sandbox = .error cause) :
      Stops deployment manifest argument registry (.sandbox cause)

/-- No blank stands around an issued token, since its characters are digits of base64 and dots. -/
theorem trim_of_issue {issuer : Issuer} {value : Json.Value} {token : String}
    (issued : issuer.issue value = .ok token) : Text.trim token = token := by
  have digits : ∀ value, value < 64 →
      Text.isBlank (Text.Base64.Alphabet.url.digit value) = false := by decide
  exact Text.trim_of_forall (Issuer.forall_mem_of_issue digits (by decide) issued)

/-- An issued token is given as it is: nothing is trimmed from it, and it does not name a file, since
no digit of base64 is an at sign. -/
theorem token_of_issue {issuer : Issuer} {value : Json.Value} {token : String}
    (issued : issuer.issue value = .ok token) :
    deployment.token token = .ok token := by
  have digits : ∀ value, value < 64 → Text.Base64.Alphabet.url.digit value ≠ '@' := by decide
  have plain : ∀ character ∈ token.toList, character ≠ '@' :=
    Issuer.forall_mem_of_issue digits (by decide) issued
  rw [Deployment.token]
  split
  · next path spelled =>
    have inside : '@' ∈ token.toList := by
      rw [spelled]
      exact List.mem_cons_self
    exact absurd rfl (plain '@' inside)
  · exact congrArg Except.ok (trim_of_issue issued)

/-- The only failure of a token argument is that of the file that it names. -/
theorem tokenFile_of_token {cause : CommandError}
    (ungiven : deployment.token argument = .error cause) :
    ∃ path fault, cause = .tokenFile path fault := by
  unfold Deployment.token at ungiven
  split at ungiven
  · split at ungiven
    · cases ungiven
    · exact ⟨_, _, (Except.error.inj ungiven).symm⟩
  · cases ungiven

/-- The only failure of a verifier is that of its key file. -/
theorem publicKey_of_verifier {cause : CommandError}
    (unkeyed : deployment.verifier = .error cause) : ∃ fault, cause = .publicKey fault := by
  unfold Deployment.verifier at unkeyed
  generalize deployment.settings.verifier.load deployment.secrets deployment.environment
    deployment.system = loaded at unkeyed
  cases loaded with
  | ok verifier => cases unkeyed
  | error fault => exact ⟨fault, (Except.error.inj unkeyed).symm⟩

/-- The only reason for a registry to have no place is that no home directory is known. -/
theorem homeless_of_registryPath {cause : CommandError}
    (unplaced : deployment.registryPath registry = .error cause) : cause = .homeless := by
  unfold registryPath at unplaced
  split at unplaced
  · cases unplaced
  · cases unplaced
  · exact (Except.error.inj unplaced).symm

/-- A run has all its parts at hand, or one of them is the first that is not. The parts are gone
through in the order in which they are looked at. -/
theorem readies_or_stops (deployment : Deployment) (manifest argument : String)
    (registry : Option String) :
    (∃ ready, deployment.Readies manifest argument registry ready) ∨
      ∃ cause, deployment.Stops manifest argument registry cause := by
  cases document : deployment.document manifest TaskClaims.read with
  | error cause => exact .inr ⟨_, .manifest document⟩
  | ok claims =>
    have read : deployment.manifest manifest = .ok claims := by
      rw [Deployment.manifest, document]
      rfl
    cases given : deployment.token argument with
    | error cause =>
      obtain ⟨path, fault, rfl⟩ := tokenFile_of_token given
      exact .inr ⟨_, .token read given⟩
    | ok token =>
      cases keyed : deployment.verifier with
      | error cause =>
        obtain ⟨fault, rfl⟩ := publicKey_of_verifier keyed
        exact .inr ⟨_, .publicKey read given keyed⟩
      | ok verifier =>
        cases accepted : verifier.verify token with
        | error cause => exact .inr ⟨_, .rejected read ⟨given, keyed⟩ accepted⟩
        | ok verified =>
          have authenticates : deployment.Authenticates manifest argument
              ⟨claims, token, verifier⟩ := ⟨read, ⟨given, keyed⟩, verified, accepted⟩
          cases placed : deployment.registryPath registry with
          | error cause =>
            obtain rfl := homeless_of_registryPath placed
            exact .inr ⟨_, .homeless authenticates placed⟩
          | ok path =>
            cases records : deployment.document path Registry.read with
            | error cause => exact .inr ⟨_, .registry authenticates placed records⟩
            | ok entries =>
              have registered : deployment.registry path = .ok entries := by
                rw [Deployment.registry, records]
                rfl
              cases built : Sandbox.builder deployment.settings.sandbox with
              | error cause => exact .inr ⟨_, .sandbox authenticates ⟨placed, registered⟩ built⟩
              | ok builder =>
                have usable : deployment.builder = .ok builder := by
                  rw [Deployment.builder, built]
                  rfl
                exact .inl ⟨⟨⟨claims, token, verifier⟩, entries, builder⟩, authenticates,
                  ⟨path, placed, registered⟩, usable⟩

/-- A token that its verifier accepts is authenticated. -/
theorem authenticate_of_accepted {token : String} {verifier : Verifier} {verified : TaskClaims}
    (presents : deployment.Presents argument token verifier)
    (accepted : verifier.verify token = .ok verified) (refusal : TokenError → CommandError) :
    deployment.authenticate argument refusal = .ok ⟨token, verifier, verified⟩ := by
  rw [authenticate, presents.token, presents.verifier]
  simp only [bind, Except.bind, accepted, mapError_ok, pure, Except.pure]

/-- A token that its verifier turns away is refused in the words of the verb. -/
theorem authenticate_of_rejected {token : String} {verifier : Verifier} {cause : TokenError}
    (presents : deployment.Presents argument token verifier)
    (rejected : verifier.verify token = .error cause) (refusal : TokenError → CommandError) :
    deployment.authenticate argument refusal = .error (refusal cause) := by
  rw [authenticate, presents.token, presents.verifier]
  simp only [bind, Except.bind, rejected, mapError_error]

/-- What is authenticated is the task of its manifest and its token. -/
theorem task_of_authenticates {task : Task}
    (authenticates : deployment.Authenticates manifest argument task) :
    deployment.task manifest argument = .ok task := by
  obtain ⟨verified, accepted⟩ := authenticates.accepted
  rw [Deployment.task, authenticates.manifest]
  simp only [bind, Except.bind, authenticate_of_accepted authenticates.presents accepted, pure,
    Except.pure]

/-- A run with all its parts at hand is what the runner makes of them: its event is printed, and its
executions and the states it leaves are handed on. -/
theorem run_of_readies {ready : Ready}
    (readies : deployment.Readies manifest argument registry ready)
    (surroundings : Surroundings ε) (state : Host × ε) :
    let answer := (ready.runner deployment surroundings).run ready.task.manifest ready.task.token
      surroundings.now state
    let performed := deployment.run manifest argument registry surroundings state
    performed.1.result = (answer.1.result.map AuditEvent.render).mapError .run ∧
      performed.1.executions = answer.1.executions ∧ performed.2 = answer.2 := by
  obtain ⟨path, placed, registered⟩ := readies.registers
  simp only [run, task_of_authenticates readies.authenticates, placed, registered,
    readies.builder]
  exact ⟨rfl, rfl, rfl⟩

/-- A run that stops fails with what stopped it, executes nothing and changes nothing. The journal
may say that the registry was loaded, if that was reached. -/
theorem run_of_stops {cause : CommandError}
    (stops : deployment.Stops manifest argument registry cause) (surroundings : Surroundings ε)
    (state : Host × ε) :
    ∃ records, deployment.run manifest argument registry surroundings state =
      (.failed cause records, state) := by
  cases stops with
  | manifest unread =>
    refine ⟨[], ?_⟩
    simp only [run, task, Deployment.manifest, unread, mapError_error, bind, Except.bind]
  | token read ungiven =>
    refine ⟨[], ?_⟩
    simp only [run, task, read, authenticate, ungiven, bind, Except.bind]
  | publicKey read given unkeyed =>
    refine ⟨[], ?_⟩
    simp only [run, task, read, authenticate, given, unkeyed, bind, Except.bind]
  | rejected read presents rejected =>
    refine ⟨[], ?_⟩
    simp only [run, task, read, authenticate_of_rejected presents rejected, bind, Except.bind]
  | homeless authenticates unplaced =>
    refine ⟨[], ?_⟩
    simp only [run, task_of_authenticates authenticates, unplaced]
  | registry authenticates placed unread =>
    refine ⟨[], ?_⟩
    simp only [run, task_of_authenticates authenticates, placed, Deployment.registry, unread,
      mapError_error]
  | @sandbox _ path entries _ authenticates registers unbuilt =>
    refine ⟨[registryRecord path entries], ?_⟩
    simp only [run, task_of_authenticates authenticates, registers.placed, registers.read,
      Deployment.builder, unbuilt, mapError_error]

/-- A run that fails has stopped at one of its parts, or has them all at hand and fails as its
runner does. -/
theorem stops_of_run {surroundings : Surroundings ε} {state : Host × ε} {failure : CommandError}
    (failed : (deployment.run manifest argument registry surroundings state).1.result =
      .error failure) :
    deployment.Stops manifest argument registry failure ∨ ∃ ready error,
      deployment.Readies manifest argument registry ready ∧
      ((ready.runner deployment surroundings).run ready.task.manifest ready.task.token
        surroundings.now state).1.result = .error error ∧ failure = .run error := by
  rcases deployment.readies_or_stops manifest argument registry with
    ⟨ready, readies⟩ | ⟨cause, stops⟩
  · have result := (run_of_readies readies surroundings state).1.symm.trans failed
    obtain ⟨error, reported, same⟩ := error_of_mapError result
    exact .inr ⟨ready, error, readies, error_of_map reported, same.symm⟩
  · obtain ⟨records, result⟩ := run_of_stops stops surroundings state
    rw [result] at failed
    obtain rfl := Except.error.inj failed
    exact .inl stops

end Deployment

end Gatehouse.CommandLine
