import Gatehouse.Proofs.Run.Admission
import Gatehouse.Proofs.Sandbox.Options

/-!
# What a run removes

A launch that was given up, or whose launcher was killed, may leave a sandbox running.
The run then executes one more command, the one that its builder names for the removal,
and nothing else ever makes it execute a second one: not an empty command, which launched
nothing, not an outcome of any exit code, and not a failure behind the launch. Whatever
becomes of the removal, the run fails with the error of its first command.

A container is removed under the name that it was launched with.
-/

namespace Gatehouse

/-- Failures that may leave a sandbox behind. An empty command launched nothing. -/
def ExecutionError.MayLeaveSandbox : ExecutionError → Prop
  | .launchFailed _ | .timeout _ => True
  | .emptyCommand => False

namespace Runner

variable {σ ε : Type} (runner : Runner σ ε)

/-- A launch with this result may have left a sandbox behind, and its builder names the command
that removes it. -/
structure LeavesBehind (admitted : Admitted) (result : Except ExecutionError Outcome)
    (removal : Command) : Prop where
  failed : ∃ cause, result = .error cause ∧ cause.MayLeaveSandbox
  named : runner.gate.builder.teardown admitted.tool admitted.claims = some removal

/-- A removal executes the command that the builder names, and nothing where it names none. -/
theorem commands_teardown (admitted : Admitted) (state : σ) :
    Execution.commands (runner.teardown admitted state).1 =
      (runner.gate.builder.teardown admitted.tool admitted.claims).toList := by
  unfold teardown
  split
  · next none =>
    rw [none]
    rfl
  · next removal named =>
    rw [named]
    rfl

/-- What a launch executes behind the command of the task. -/
structure Removes (admitted : Admitted) (result : Except ExecutionError Outcome)
    (removals : List Execution) : Prop where
  atMostOne : removals.length ≤ 1
  named : ∀ removal, Execution.commands removals = [removal] ↔
    runner.LeavesBehind admitted result removal

variable {runner}

/-- Where nothing is left behind, nothing is removed. -/
theorem removes_nothing {admitted : Admitted} {result : Except ExecutionError Outcome}
    (clean : ∀ cause, result = .error cause → ¬ cause.MayLeaveSandbox) :
    runner.Removes admitted result [] := by
  refine ⟨Nat.zero_le _, fun removal => ⟨fun some => ?_, fun left => ?_⟩⟩
  · cases some
  · obtain ⟨cause, failed, left⟩ := left.failed
    exact absurd left (clean cause failed)

/-- Where something may be left behind, exactly what the builder names is executed, whatever the
state is that the first command leaves. -/
theorem removes_named {admitted : Admitted} {cause : ExecutionError} (left : cause.MayLeaveSandbox)
    (state : σ) : runner.Removes admitted (.error cause) (runner.teardown admitted state).1 := by
  have commands := runner.commands_teardown admitted state
  constructor
  · have sameLength := congrArg List.length commands
    rw [Execution.commands, List.length_map] at sameLength
    rw [sameLength]
    exact Option.length_toList_le
  · intro removal
    rw [commands]
    constructor
    · intro one
      exact ⟨⟨cause, rfl, left⟩, Option.toList_eq_singleton_iff.mp one⟩
    · intro leaves
      exact Option.toList_eq_singleton_iff.mpr leaves.named

/-- A launch executes the command of its task, then what it removes, and an error of the first
command is its error. By cases on what became of the first command. -/
theorem launch_removes (runner : Runner σ ε) (admitted : Admitted) (state : σ) :
    let result := (runner.executor.execute admitted.command state).1
    ∃ removals, (runner.launch admitted state).1.executions =
        ⟨admitted.command, result⟩ :: removals ∧
      runner.Removes admitted result removals ∧
      ∀ cause, result = .error cause →
        (runner.launch admitted state).1.result = .error (.execution cause) := by
  intro result
  cases executed : runner.executor.execute admitted.command state with
  | mk first next =>
    have same : result = first := congrArg Prod.fst executed
    rw [same]
    cases first with
    | ok outcome =>
      have clean : runner.Removes admitted (.ok outcome) [] :=
        removes_nothing fun cause failed => by cases failed
      simp only [launch, execute, executed]
      split <;> exact ⟨[], rfl, clean, fun cause failed => by cases failed⟩
    | error cause =>
      have reported {error : RunError} (same : error = .execution cause) : ∀ other,
          (.error cause : Except ExecutionError Outcome) = .error other →
            (.error error : Except RunError Outcome) = .error (.execution other) := by
        intro other failed
        obtain rfl := Except.error.inj failed
        rw [same]
      cases cause with
      -- Nothing was launched, so nothing can be left.
      | emptyCommand =>
        have clean : runner.Removes admitted (.error .emptyCommand) [] := by
          apply removes_nothing
          intro cause failed left
          obtain rfl := Except.error.inj failed
          exact left
        simp only [launch, execute, executed]
        exact ⟨[], rfl, clean, reported rfl⟩
      | launchFailed reason =>
        have left : (ExecutionError.launchFailed reason).MayLeaveSandbox := trivial
        simp only [launch, execute, executed]
        exact ⟨_, rfl, removes_named left next, reported rfl⟩
      | timeout seconds =>
        have left : (ExecutionError.timeout seconds).MayLeaveSandbox := trivial
        simp only [launch, execute, executed]
        exact ⟨_, rfl, removes_named left next, reported rfl⟩

variable {manifest : TaskClaims} {token : String}

/-- The executions of a run are the trace of its executor, from the state that it was given to the
one that it leaves. -/
theorem replay_run (runner : Runner σ ε) (manifest : TaskClaims) (token : String) (now : Instant)
    (state : σ × ε) :
    let answer := runner.run manifest token now state
    runner.executor.replay (Execution.commands answer.1.executions) state.1 =
      (answer.1.executions, answer.2.1) := by
  intro answer
  rcases runner.gate.admits_or_refuses manifest token with ⟨admitted, admits⟩ | ⟨error, refused⟩
  · obtain ⟨sameExecutions, sameState⟩ := run_of_admits admits now state
    rw [sameExecutions, sameState]
    exact (runner.replay_launch admitted state.1).1
  · have idle : answer = (aborted error [] [] (runner.gate.records manifest token), state) :=
      run_of_refuses refused now state
    rw [idle]
    rfl

/-- A run of a task that is admitted fails with the error that its launch fails with, and draws
nothing then. -/
theorem run_of_failed {admitted : Admitted} {error : RunError}
    (admits : runner.gate.Admits manifest token admitted) {state : σ × ε}
    (failed : (runner.launch admitted state.1).1.result = .error error) (now : Instant) :
    (runner.run manifest token now state).1.result = .error error ∧
      (runner.run manifest token now state).1.draws = [] := by
  rw [run, Gate.pass_of_admits admits]
  simp only [failed]
  exact ⟨rfl, rfl⟩

/-- A launch that leaves nothing behind executes one command: the relation has no removal for it. -/
theorem Removes.eq_nil {admitted : Admitted} {result : Except ExecutionError Outcome}
    {removals : List Execution} (removes : runner.Removes admitted result removals)
    (clean : ∀ cause, result = .error cause → ¬ cause.MayLeaveSandbox) : removals = [] := by
  match removals, removes with
  | [], _ => rfl
  | removal :: rest, removes =>
    have alone : rest = [] := List.length_eq_zero_iff.mp (Nat.le_zero.mp
      (Nat.le_of_succ_le_succ removes.atMostOne))
    have leaves := (removes.named removal.command).mp (by rw [alone]; rfl)
    obtain ⟨cause, failed, left⟩ := leaves.failed
    exact absurd left (clean cause failed)

/-- A run executes at most two commands, the second one exactly when the first failed in a way that
may leave a sandbox behind and the builder names a command for its removal, and that is the one.
So no outcome of the first command, whatever its exit code, makes it execute a second one, nor an
empty command, nor a draw that gives nothing. The run fails with the error of its first command
whatever becomes of the second; the state of the executor, which decides that, is arbitrary here.
The command that removes a container names what the one that launches it named. -/
theorem removes_iff_left_behind (runner : Runner σ ε) (manifest : TaskClaims) (token : String)
    (now : Instant) (state : σ × ε) :
    let answer := runner.run manifest token now state
    let executions := answer.1.executions
    runner.executor.replay (Execution.commands executions) state.1 = (executions, answer.2.1) ∧
    executions.length ≤ 2 ∧
    (∀ first removal, Execution.commands executions = [first, removal] ↔
      ∃ admitted, runner.gate.Admits manifest token admitted ∧ first = admitted.command ∧
        runner.LeavesBehind admitted (runner.executor.execute admitted.command state.1).1
          removal) ∧
    (∀ first rest, executions = first :: rest →
      ((∃ outcome, first.result = .ok outcome) ∨ first.result = .error .emptyCommand →
        rest = []) ∧
      ∀ cause, first.result = .error cause → answer.1.result = .error (.execution cause)) ∧
    (none ∈ answer.1.draws → executions.length = 1) ∧
    (∀ settings tool claims command, (Sandbox.docker settings).build tool claims = .ok command →
      ∃ name, command.valuesOf "--name" = [some name] ∧
        (Sandbox.docker settings).teardown tool claims =
          some ⟨[settings.dockerBin, "rm", "--force", name]⟩) := by
  intro answer executions
  refine ⟨replay_run runner manifest token now state, ?_⟩
  rcases runner.gate.admits_or_refuses manifest token with ⟨admitted, admits⟩ | ⟨error, refused⟩
  · obtain ⟨removals, launched, removes, failing⟩ := runner.launch_removes admitted state.1
    have executed : executions = ⟨admitted.command, _⟩ :: removals :=
      (run_of_admits admits now state).1.trans launched
    rw [executed]
    refine ⟨?atMostTwo, ?second, ?result, ?draws, fun _ _ _ _ => Sandbox.teardown_docker⟩
    case atMostTwo => exact Nat.succ_le_succ removes.atMostOne
    case second =>
      intro first removal
      constructor
      · intro both
        obtain ⟨same, others⟩ := List.cons.inj both
        exact ⟨admitted, admits, same.symm, (removes.named removal).mp others⟩
      · rintro ⟨other, otherAdmits, rfl, leaves⟩
        obtain rfl := admits.unique otherAdmits
        exact congrArg (admitted.command :: ·) ((removes.named removal).mpr leaves)
    case result =>
      intro first rest same
      obtain ⟨rfl, rfl⟩ := List.cons.inj same
      refine ⟨fun clean => removes.eq_nil ?_, fun cause failed => ?_⟩
      · intro cause failed left
        rcases clean with ⟨outcome, ended⟩ | empty
        · cases ended.symm.trans failed
        · obtain rfl := Except.error.inj (empty.symm.trans failed)
          exact left
      · exact (run_of_failed admits (failing cause failed) now).1
    case draws =>
      intro drawn
      have alone : removals = [] := by
        apply removes.eq_nil
        intro cause failed left
        -- A run that drew has an outcome to report.
        have idle := (run_of_failed admits (failing cause failed) now).2
        rw [idle] at drawn
        cases drawn
      rw [alone]
      rfl
  · have idle : answer = (aborted error [] [] (runner.gate.records manifest token), state) :=
      run_of_refuses refused now state
    have nothing : executions = [] := congrArg (·.1.executions) idle
    rw [nothing, idle]
    refine ⟨Nat.zero_le _, fun first removal => ⟨fun both => ?_, ?_⟩, fun first rest same => ?_,
      fun drawn => ?_, fun _ _ _ _ => Sandbox.teardown_docker⟩
    · cases both
    · rintro ⟨admitted, admits, -⟩
      exact absurd refused admits.not_refuses
    · cases same
    · cases drawn

/-- The sample runner, launching containers. -/
def containers : Runner (List (Except ExecutionError Outcome)) Unit :=
  { sample with gate.builder := Sandbox.docker { backend := .docker } }

/-- The command that it builds. -/
def sampleContainer : Command :=
  ⟨Sandbox.containerArguments { backend := .docker } sampleTool sampleClaims⟩

/-- The guard lets the sample container pass. -/
theorem unbroken_sampleContainer : checkBreakout sampleContainer = .ok () := by
  have harmless :
      Guard.firstIndicator? (sampleContainer.arguments.map Guard.lower) = none := by
    decide +kernel
  rw [checkBreakout, harmless]

/-- The task of the sample is admitted with that container. -/
theorem admits_sampleContainer :
    containers.gate.Admits sampleClaims "signed" ⟨sampleClaims, sampleTool, sampleContainer⟩ :=
  ⟨rfl, fun _ => rfl, rfl, rfl, unbroken_sampleContainer⟩

/-- A container whose launcher is killed after five seconds is removed under its own name, and the
run fails with the timeout although the removal fails too. -/
theorem removes_iff_left_behind_timeout :
    let answers := [.error (.timeout 5), .error (.launchFailed "no such file")]
    let answer := (containers.run sampleClaims "signed" ⟨0, 0⟩ (answers, ())).1
    ∃ first removal name, Execution.commands answer.executions = [first, removal] ∧
      first.valuesOf "--name" = [some name] ∧ removal.argv = ["docker", "rm", "--force", name] ∧
      answer.result = .error (.execution (.timeout 5)) := by
  intro answers answer
  obtain ⟨-, -, second, reported, -, named⟩ :=
    removes_iff_left_behind containers sampleClaims "signed" ⟨0, 0⟩ (answers, ())
  have admits := admits_sampleContainer
  obtain ⟨name, once, removal⟩ := named _ _ _ _ admits.built
  have both := (second _ _).mpr ⟨_, admits, rfl, ⟨_, rfl, trivial⟩, removal⟩
  obtain ⟨removals, launched, -⟩ := containers.launch_removes _ answers
  have executed := (run_of_admits admits ⟨0, 0⟩ (answers, ())).1.trans launched
  exact ⟨_, _, name, both, once, rfl, (reported _ _ executed).2 _ rfl⟩

end Runner

end Gatehouse
