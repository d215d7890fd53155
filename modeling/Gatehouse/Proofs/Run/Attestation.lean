import Gatehouse.Proofs.Registry.Resolution
import Gatehouse.Proofs.Run.Admission

/-!
# What an event attests

An event leads back to everything that it reports on. The token in it is the one that
was handed in, and verifying that token again gives the claims whose fields the event
repeats; the registry authorizes the tool that it names; and the one command that was
executed is the one that was measured, with the outcome that the event carries. There is
an event exactly when the gate admits the task, its command ends with a code that is not
one of its launcher, and a name can be drawn.
-/

namespace Gatehouse

/-- Only zero is the code of a success. -/
theorem RunStatus.ofExitCode_eq_success {exitCode : Int32} :
    ofExitCode exitCode = .success ↔ exitCode = 0 := by
  unfold ofExitCode
  split
  · next zero => exact iff_of_true rfl zero
  · next other => exact iff_of_false (by simp) other

namespace Runner

variable {σ ε : Type}

/-- An event attests claims, the command that was executed for them and its outcome. Verifying the
token in the event gives the claims again, from which its fields are taken. -/
structure Attests (runner : Runner σ ε) (token : String) (event : AuditEvent)
    (claims : TaskClaims) (command : Command) (outcome : Outcome) : Prop where
  token : event.data.token = token
  verified : runner.gate.token.verify event.data.token = .ok claims
  subject : event.subject = claims.taskId
  taskId : event.data.taskId = claims.taskId
  tenantId : event.data.tenantId = claims.tenantId
  toolDigest : event.data.toolDigest = claims.toolDigest
  targetUrn : event.data.targetUrn = claims.targetUrn
  authorized : ∃ entry ∈ runner.gate.registry,
    entry.authorized = true ∧ entry.toolDigest = event.data.toolDigest
  measurement : event.data.measurement =
    Measurement.hash claims runner.gate.builder.backend command
  exitCode : event.data.exitCode = outcome.exitCode
  stdout : event.data.stdout = outcome.stdout
  stderr : event.data.stderr = outcome.stderr
  status : event.data.status = .success ↔ event.data.exitCode = 0
  finished : event.data.exitCode ∉ runner.gate.builder.launcherExitCodes

variable {runner : Runner σ ε} {manifest : TaskClaims} {token : String} {admitted : Admitted}
  {outcome : Outcome}

/-- A command that ends with a code of its own is the only one of its launch: it left nothing to be
removed. -/
theorem launch_of_finished {state : σ}
    (executed : (runner.executor.execute admitted.command state).1 = .ok outcome)
    (finished : outcome.exitCode ∉ runner.gate.builder.launcherExitCodes) :
    (runner.launch admitted state).1.result = .ok outcome ∧
      (runner.launch admitted state).1.executions = [⟨admitted.command, .ok outcome⟩] ∧
      (runner.launch admitted state).2 = (runner.executor.execute admitted.command state).2 := by
  have notLauncher : runner.gate.builder.launcherExitCodes.contains outcome.exitCode = false := by
    simpa using finished
  simp only [launch, execute, executed, notLauncher]
  exact ⟨rfl, rfl, rfl⟩

/-- A launch has an outcome only where its command ended with a code of its own. A code of the
launcher says that the tool was not run, and an error of the executor that it did not end. -/
theorem finished_of_launch {state : σ}
    (launched : (runner.launch admitted state).1.result = .ok outcome) :
    (runner.executor.execute admitted.command state).1 = .ok outcome ∧
      outcome.exitCode ∉ runner.gate.builder.launcherExitCodes := by
  cases executed : runner.executor.execute admitted.command state with
  | mk result next =>
    cases result with
    | ok ended =>
      simp only [launch, execute, executed] at launched
      split at launched
      -- An exit code of the launcher is no outcome of the tool.
      · cases launched
      · next notLauncher =>
        obtain rfl := Except.ok.inj launched
        exact ⟨rfl, by simpa using notLauncher⟩
    | error cause =>
      cases cause <;> simp [launch, execute, executed] at launched

/-- A run that was admitted and whose command finished makes the event of the outcome, if a name
can be drawn. -/
theorem run_of_finished {state : σ × ε} (admits : runner.gate.Admits manifest token admitted)
    (executed : (runner.executor.execute admitted.command state.1).1 = .ok outcome)
    (finished : outcome.exitCode ∉ runner.gate.builder.launcherExitCodes) (now : Instant) :
    (runner.run manifest token now state).1.result =
      match (runner.entropy state.2).1 with
      | some seed => .ok (EventContent.event ⟨admitted.claims, outcome, token,
          Measurement.hash admitted.claims runner.gate.builder.backend admitted.command⟩ seed now)
      | none => .error (.event .entropyUnavailable) := by
  have launched := (launch_of_finished executed finished).1
  simp only [run, Gate.pass_of_admits admits, launched, report, EventContent.mapEvent]
  cases runner.entropy state.2 with
  | mk drawn last => cases drawn <;> rfl

/-- A run with an event was admitted, its command finished, and a name was drawn. Every other end of
a run is an error, so this is by cases on what is first to go wrong. -/
theorem finished_of_event {now : Instant} {state : σ × ε} {event : AuditEvent}
    (reported : (runner.run manifest token now state).1.result = .ok event) :
    ∃ admitted outcome seed, runner.gate.Admits manifest token admitted ∧
      (runner.executor.execute admitted.command state.1).1 = .ok outcome ∧
      outcome.exitCode ∉ runner.gate.builder.launcherExitCodes ∧
      (runner.entropy state.2).1 = some seed := by
  rcases runner.gate.admits_or_refuses manifest token with ⟨admitted, admits⟩ | ⟨error, refused⟩
  · cases launched : (runner.launch admitted state.1).1.result with
    | error cause =>
      simp only [run, Gate.pass_of_admits admits, launched] at reported
      cases reported
    | ok outcome =>
      obtain ⟨executed, finished⟩ := finished_of_launch launched
      rw [run_of_finished admits executed finished] at reported
      cases drawn : (runner.entropy state.2).1 with
      | none =>
        rw [drawn] at reported
        cases reported
      | some seed => exact ⟨admitted, outcome, seed, admits, executed, finished, rfl⟩
  · rw [run_of_refuses refused] at reported
    cases reported

/-- The event of a finished run attests the claims that were verified and the command that was
executed. Its fields are filled from nothing else. -/
theorem attests_event (admits : runner.gate.Admits manifest token admitted)
    (finished : outcome.exitCode ∉ runner.gate.builder.launcherExitCodes) (seed : EventSeed)
    (now : Instant) :
    runner.Attests token (EventContent.event ⟨admitted.claims, outcome, token,
      Measurement.hash admitted.claims runner.gate.builder.backend admitted.command⟩ seed now)
      admitted.claims admitted.command outcome where
  token := rfl
  verified := admits.verified
  subject := rfl
  taskId := rfl
  tenantId := rfl
  toolDigest := rfl
  targetUrn := rfl
  authorized := ⟨admitted.tool, Registry.of_resolve admits.resolved⟩
  measurement := rfl
  exitCode := rfl
  stdout := rfl
  stderr := rfl
  status := RunStatus.ofExitCode_eq_success
  finished := finished

/-- An event attests the claims of its token, one authorized tool, and the one command that was
executed with its outcome. There is an event exactly when the gate admits the task, the command
ends with a code that is not one of its launcher, and the source of randomness gives a name. -/
theorem event_attests_run (runner : Runner σ ε) (manifest : TaskClaims) (token : String)
    (now : Instant) (state : σ × ε) :
    let answer := runner.run manifest token now state
    (∀ event, answer.1.result = .ok event → ∃ claims command outcome,
      answer.1.executions = [⟨command, .ok outcome⟩] ∧
      runner.executor.execute command state.1 = (.ok outcome, answer.2.1) ∧
      runner.Attests token event claims command outcome) ∧
    ((∃ event, answer.1.result = .ok event) ↔
      ∃ admitted outcome seed, runner.gate.Admits manifest token admitted ∧
        (runner.executor.execute admitted.command state.1).1 = .ok outcome ∧
        outcome.exitCode ∉ runner.gate.builder.launcherExitCodes ∧
        (runner.entropy state.2).1 = some seed) := by
  intro answer
  refine ⟨fun event reported => ?_, ?_, ?_⟩
  · obtain ⟨admitted, outcome, seed, admits, executed, finished, drawn⟩ :=
      finished_of_event reported
    obtain ⟨-, executions, last⟩ := launch_of_finished executed finished
    obtain ⟨sameExecutions, sameState⟩ := run_of_admits admits now state
    have result := run_of_finished admits executed finished now
    rw [drawn] at result
    obtain rfl := Except.ok.inj (result.symm.trans reported)
    exact ⟨admitted.claims, admitted.command, outcome, sameExecutions.trans executions,
      Prod.ext executed (sameState.trans last).symm, attests_event admits finished seed now⟩
  · rintro ⟨event, reported⟩
    exact finished_of_event reported
  · rintro ⟨admitted, outcome, seed, admits, executed, finished, drawn⟩
    have result := run_of_finished admits executed finished now
    rw [drawn] at result
    exact ⟨_, result⟩

/-- The sample runner makes an event of a command that fails with a code of its own, and the event
attests it. -/
theorem event_attests_run_sample :
    let answers := [.ok ⟨3, "found", "", false, false, 0⟩]
    let answer := (sample.run sampleClaims "signed" ⟨0, 0⟩ (answers, ())).1
    ∃ event claims command outcome, answer.result = .ok event ∧
      answer.executions = [⟨command, .ok outcome⟩] ∧
      sample.Attests "signed" event claims command outcome := by
  intro answers answer
  obtain ⟨attested, reported⟩ :=
    event_attests_run sample sampleClaims "signed" ⟨0, 0⟩ (answers, ())
  have admits : sample.gate.Admits sampleClaims "signed"
      ⟨sampleClaims, sampleTool, ⟨["echo", "firecracker_simulated:task-1:sha256:def"]⟩⟩ :=
    ⟨rfl, fun _ => rfl, rfl, rfl, rfl⟩
  obtain ⟨event, result⟩ := reported.mpr ⟨_, _, _, admits, rfl, List.not_mem_nil, rfl⟩
  obtain ⟨claims, command, outcome, executions, -, attests⟩ := attested event result
  exact ⟨event, claims, command, outcome, result, executions, attests⟩

end Runner

end Gatehouse
