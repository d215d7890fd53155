import Gatehouse.Run.Runner
import Gatehouse.Proofs.Run.Gate

/-!
# What a run executes

The commands of a run, replayed on the executor one after another from the state that it
started in, give exactly the results that the run reports and the state that it leaves.
So its list of executions is the trace of the executor, with nothing left out. The trace
is empty when the gate refuses, and begins with the command of the task when it admits
one; a second command can only be the removal of a sandbox.
-/

namespace Gatehouse

variable {σ ε : Type}

/-- Execute commands one after another, with the result of each. -/
def Executor.replay (executor : Executor σ) : List Command → σ → List Execution × σ
  | [], state => ([], state)
  | command :: rest, state =>
    let (result, next) := executor.execute command state
    let (executions, last) := executor.replay rest next
    (⟨command, result⟩ :: executions, last)

def Execution.commands (executions : List Execution) : List Command :=
  executions.map Execution.command

/-- A trace that begins with a command goes on from the state that the command leaves. This is the
step by which every trace of a run is put together. -/
theorem Executor.replay_cons {executor : Executor σ} {command : Command} {state next last : σ}
    {result : Except ExecutionError Outcome} {rest : List Command} {executions : List Execution}
    (executed : executor.execute command state = (result, next))
    (replayed : executor.replay rest next = (executions, last)) :
    executor.replay (command :: rest) state = (⟨command, result⟩ :: executions, last) := by
  rw [replay, executed]
  simp only [replayed]

namespace Runner

variable (runner : Runner σ ε)

/-- A removal is a trace of at most one command: the builder names one, or there is nothing to
remove. -/
theorem replay_teardown (admitted : Admitted) (state : σ) :
    runner.executor.replay (Execution.commands (runner.teardown admitted state).1) state =
      ((runner.teardown admitted state).1, (runner.teardown admitted state).2.2) := by
  unfold teardown
  split <;> rfl

/-- A launch is a trace that begins with the command of the task. What comes behind it is the
removal, by how the command failed, and nothing if it did not. -/
theorem replay_launch (admitted : Admitted) (state : σ) :
    runner.executor.replay (Execution.commands (runner.launch admitted state).1.executions) state =
        ((runner.launch admitted state).1.executions, (runner.launch admitted state).2) ∧
      (Execution.commands (runner.launch admitted state).1.executions).head? =
        some admitted.command := by
  cases executed : runner.executor.execute admitted.command state with
  | mk result next =>
    cases result with
    | ok outcome =>
      simp only [launch, execute, executed]
      split <;> exact ⟨Executor.replay_cons executed rfl, rfl⟩
    | error cause =>
      cases cause with
      -- Nothing was launched, so there is nothing to remove.
      | emptyCommand =>
        simp only [launch, execute, executed]
        exact ⟨Executor.replay_cons executed rfl, rfl⟩
      | launchFailed reason =>
        simp only [launch, execute, executed]
        exact ⟨Executor.replay_cons executed (runner.replay_teardown admitted next), rfl⟩
      | timeout seconds =>
        simp only [launch, execute, executed]
        exact ⟨Executor.replay_cons executed (runner.replay_teardown admitted next), rfl⟩

variable {runner} {manifest : TaskClaims} {token : String}

/-- A run of a task that is refused does nothing and reports why. -/
theorem run_of_refuses {error : RunError} (refused : runner.gate.Refuses manifest token error)
    (now : Instant) (state : σ × ε) :
    runner.run manifest token now state =
      (aborted error [] [] (runner.gate.records manifest token), state) := by
  rw [run, Gate.pass_of_refuses refused]

/-- A run of a task that is admitted executes what its launch executes: making the event that is
reported executes nothing. -/
theorem run_of_admits {admitted : Admitted} (admits : runner.gate.Admits manifest token admitted)
    (now : Instant) (state : σ × ε) :
    (runner.run manifest token now state).1.executions =
        (runner.launch admitted state.1).1.executions ∧
      (runner.run manifest token now state).2.1 = (runner.launch admitted state.1).2 := by
  rw [run, Gate.pass_of_admits admits]
  dsimp only
  cases result : (runner.launch admitted state.1).1.result with
  | error cause => exact ⟨rfl, rfl⟩
  | ok outcome =>
    simp only [report]
    split <;> exact ⟨rfl, trivial⟩

/-- Of a manifest that passes, nothing has an effect: every other one that passes with the same
token gives the same run. -/
theorem run_eq_of_admits {other : TaskClaims} {admitted otherAdmitted : Admitted}
    (admits : runner.gate.Admits manifest token admitted)
    (otherAdmits : runner.gate.Admits other token otherAdmitted) (now : Instant)
    (state : σ × ε) : runner.run other token now state = runner.run manifest token now state := by
  have sameClaims : otherAdmitted.claims = admitted.claims :=
    Except.ok.inj (otherAdmits.verified.symm.trans admits.verified)
  have agreed : ∀ field, ReconciledField.Agrees other admitted.claims field :=
    sameClaims ▸ otherAdmits.agreed
  have sameRecords : runner.gate.records other token = runner.gate.records manifest token := by
    simp only [Gate.records, admits.verified, reconcile_of_agrees agreed,
      reconcile_of_agrees admits.agreed]
  have admitsSame : runner.gate.Admits other token admitted :=
    ⟨admits.verified, agreed, admits.resolved, admits.built, admits.unbroken⟩
  simp only [run, sameRecords, Gate.pass_of_admits admits, Gate.pass_of_admits admitsSame]

/-- A run hands a command to its executor exactly when the gate admits the task, and the first one
is then the command that was built from the verified claims; the manifest has no part in what is
run. Otherwise nothing is executed or drawn, neither state changes, and the run fails with the
error of the first check that fails. The executions of a run are the trace of its executor. -/
theorem executes_iff_admitted (runner : Runner σ ε) (manifest : TaskClaims) (token : String)
    (now : Instant) (state : σ × ε) :
    let answer := runner.run manifest token now state
    let commands := Execution.commands answer.1.executions
    runner.executor.replay commands state.1 = (answer.1.executions, answer.2.1) ∧
    (commands ≠ [] ↔ ∃ admitted, runner.gate.Admits manifest token admitted) ∧
    (∀ admitted, runner.gate.Admits manifest token admitted →
      commands.head? = some admitted.command ∧
        ∀ other otherAdmitted, runner.gate.Admits other token otherAdmitted →
          runner.run other token now state = answer) ∧
    ((¬ ∃ admitted, runner.gate.Admits manifest token admitted) →
      ∃ error, runner.gate.Refuses manifest token error) ∧
    (∀ error, runner.gate.Refuses manifest token error →
      commands = [] ∧ answer.1.draws = [] ∧ answer.2 = state ∧
        answer.1.result = .error error) := by
  intro answer commands
  rcases runner.gate.admits_or_refuses manifest token with ⟨admitted, admits⟩ | ⟨error, refused⟩
  · obtain ⟨sameExecutions, sameState⟩ := run_of_admits admits now state
    obtain ⟨replayed, first⟩ := runner.replay_launch admitted state.1
    rw [← sameExecutions] at first
    rw [← sameExecutions, ← sameState] at replayed
    refine ⟨replayed, ⟨fun _ => ⟨admitted, admits⟩, fun _ none => ?_⟩, ?_, ?_, ?_⟩
    · have both := first.symm.trans (congrArg List.head? none)
      cases both
    · intro same sameAdmits
      obtain rfl := admits.unique sameAdmits
      exact ⟨first, fun other _ otherAdmits => run_eq_of_admits admits otherAdmits now state⟩
    · intro notAdmitted
      exact absurd ⟨admitted, admits⟩ notAdmitted
    · intro error refused
      exact absurd refused admits.not_refuses
  · have idle : answer = (aborted error [] [] (runner.gate.records manifest token), state) :=
      run_of_refuses refused now state
    have none : commands = [] := congrArg (Execution.commands ·.1.executions) idle
    rw [none, idle]
    refine ⟨rfl, ⟨fun some => absurd rfl some, ?_⟩, ?_, fun _ => ⟨error, refused⟩, ?_⟩
    · rintro ⟨admitted, admits⟩
      exact absurd refused admits.not_refuses
    · intro admitted admits
      exact absurd refused admits.not_refuses
    · intro other otherRefused
      obtain rfl := refused.unique otherRefused
      exact ⟨rfl, rfl, rfl, rfl⟩

/-- The claims of a task that asks for one tool. -/
def sampleClaims : TaskClaims :=
  ⟨⟨"task-1", "tenant-1", "operator-1", "", "scan"⟩, "urn:host", "sha256:def", "", [], "", ""⟩

/-- The record of that tool. -/
def sampleTool : RegistryEntry := ⟨"scan", "scan:1", "sha256:def", "", "", [], [], true⟩

/-- A runner that accepts one token and knows one tool. -/
def sample : Runner (List (Except ExecutionError Outcome)) Unit where
  gate := {
    token := ⟨.hs256, fun token =>
      if token = "signed" then .ok sampleClaims else .error .signatureInvalid⟩
    builder := Sandbox.simulated
    registry := [sampleTool] }
  executor := .scripted
  entropy _ := (some (Vector.replicate 16 0), ())

/-- The sample runner executes the command that it builds for its token, and fails for a manifest
that names another tenant and another tool in the tenant. -/
theorem executes_iff_admitted_sample :
    (Execution.commands (sample.run sampleClaims "signed" ⟨0, 0⟩ ([], ())).1.executions).head? =
      some ⟨["echo", "firecracker_simulated:task-1:sha256:def"]⟩ ∧
    (sample.run { sampleClaims with context.tenantId := "", toolDigest := "" } "signed" ⟨0, 0⟩
      ([], ())).1.result = .error (.manifest ⟨.tenantId⟩) := by
  constructor
  · have admits : sample.gate.Admits sampleClaims "signed"
        ⟨sampleClaims, sampleTool, ⟨["echo", "firecracker_simulated:task-1:sha256:def"]⟩⟩ :=
      ⟨rfl, fun _ => rfl, rfl, rfl, rfl⟩
    exact ((executes_iff_admitted sample sampleClaims "signed" ⟨0, 0⟩ ([], ())).2.2.1 _ admits).1
  · have first : FirstDifference { sampleClaims with context.tenantId := "", toolDigest := "" }
        sampleClaims .tenantId := by
      refine ⟨by decide, fun earlier before => ?_⟩
      cases earlier with
      | taskId => rfl
      | tenantId => exact absurd before (Nat.lt_irrefl _)
      | toolDigest => exact absurd before (by decide)
    have refused : sample.gate.Refuses
        { sampleClaims with context.tenantId := "", toolDigest := "" } "signed"
          (.manifest ⟨.tenantId⟩) := .manifest rfl first
    exact ((executes_iff_admitted sample _ "signed" ⟨0, 0⟩ ([], ())).2.2.2.2 _ refused).2.2.2

end Runner

end Gatehouse
