import Gatehouse.Audit.Event
import Gatehouse.Audit.Measurement
import Gatehouse.Execution.Executor
import Gatehouse.Run.Gate

/-!
# Runs

A run takes a task through the gate, executes its command and makes the event. At most
two commands are executed: the one of the task, and the one that removes a sandbox whose
launcher was killed or failed. The second one never changes the answer. Randomness is
drawn once, for the name of the event, and only when there is an outcome to report.
-/

namespace Gatehouse

/-- A command that was executed, and its result. -/
structure Execution where
  command : Command
  result : Except ExecutionError Outcome
deriving Repr

/-- What the executor did for one task: the commands in their order, and what the journal says. -/
structure LaunchReport where
  result : Except RunError Outcome
  executions : List Execution
  records : List Record
deriving Repr

/-- One run: its result, what it executed, what it drew, and what the journal says. -/
structure RunReport where
  result : Except RunError AuditEvent
  executions : List Execution
  draws : List (Option EventSeed)
  records : List Record
deriving Repr

/-- A gate with an executor and a source of randomness behind it. -/
structure Runner (σ ε : Type) where
  gate : Gate
  executor : Executor σ
  entropy : Entropy ε

namespace Runner

variable {σ ε : Type}

/-- Execute a command and say so in the journal. -/
def execute (runner : Runner σ ε) (command : Command) (state : σ) :
    Execution × List Record × σ :=
  let (result, next) := runner.executor.execute command state
  let records := match result with
    | .ok outcome => runner.executor.records command outcome
    | .error _ => []
  (⟨command, result⟩, records, next)

/-- What the journal says of a removal. -/
def teardownRecord (claims : TaskClaims) : Except ExecutionError Outcome → Record
  | .ok outcome =>
    if outcome.success then
      ⟨.info, "tollgate::pipeline", "sandbox torn down", [("task_id", .text claims.taskId)]⟩
    else
      ⟨.warn, "tollgate::pipeline", "sandbox teardown reported failure",
        [("task_id", .text claims.taskId), ("exit_code", .ofInt outcome.exitCode.toInt)]⟩
  | .error cause =>
    ⟨.warn, "tollgate::pipeline", "sandbox teardown failed",
      [("task_id", .text claims.taskId), ("kind", .text cause.kind)]⟩

/-- Remove what a task may have left, if its builder knows how to. Failures are only noted. -/
def teardown (runner : Runner σ ε) (admitted : Admitted) (state : σ) :
    List Execution × List Record × σ :=
  match runner.gate.builder.teardown admitted.tool admitted.claims with
  | none => ([], [], state)
  | some command =>
    let (execution, records, next) := runner.execute command state
    ([execution], records ++ [teardownRecord admitted.claims execution.result], next)

/-- The reason when the launcher itself gave up. -/
def launcherFailure (backend : Backend) (exitCode : Int32) : ExecutionError :=
  .launchFailed (backend.name ++ " launcher exited with code " ++ toString exitCode.toInt)

/-- What the journal says of a finished tool. -/
def finishedRecord (runner : Runner σ ε) (admitted : Admitted) (outcome : Outcome) : Record where
  level := .info
  target := "tollgate::pipeline"
  message := "sandboxed tool finished"
  fields := [
    ("task_id", .text admitted.claims.taskId),
    ("backend", .text runner.gate.builder.backend.name),
    ("exit_code", .ofInt outcome.exitCode.toInt),
    ("measurement",
      .text (Measurement.hash admitted.claims runner.gate.builder.backend admitted.command))]

/-- Execute the command of a task. Where it may have left a sandbox behind, that is removed; an
exit code of the launcher says that there is none. -/
def launch (runner : Runner σ ε) (admitted : Admitted) (state : σ) : LaunchReport × σ :=
  let (execution, records, next) := runner.execute admitted.command state
  match execution.result with
  | .ok outcome =>
    if runner.gate.builder.launcherExitCodes.contains outcome.exitCode then
      (⟨.error (.execution (launcherFailure runner.gate.builder.backend outcome.exitCode)),
        [execution], records⟩, next)
    else
      (⟨.ok outcome, [execution], records ++ [runner.finishedRecord admitted outcome]⟩, next)
  | .error .emptyCommand => (⟨.error (.execution .emptyCommand), [execution], records⟩, next)
  | .error cause =>
    let (removal, removalRecords, last) := runner.teardown admitted next
    (⟨.error (.execution cause), execution :: removal, records ++ removalRecords⟩, last)

/-- What the journal says of a run without an event. -/
def abortedRecord (error : RunError) : Record where
  level := .warn
  target := "tollgate::pipeline"
  message := "pipeline aborted"
  fields := [
    ("kind", .text error.kind),
    ("exit_code", .ofNat error.exitCode.toNat),
    ("security_rejection", .bool error.isSecurityRejection)]

/-- The report of a run that fails. -/
def aborted (error : RunError) (executions : List Execution) (draws : List (Option EventSeed))
    (records : List Record) : RunReport :=
  ⟨.error error, executions, draws, records ++ [abortedRecord error]⟩

/-- The event of an outcome, with the one draw that it takes. -/
def report (runner : Runner σ ε) (admitted : Admitted) (token : String) (now : Instant)
    (launched : LaunchReport) (outcome : Outcome) (state : ε) : RunReport × ε :=
  let content : EventContent :=
    ⟨admitted.claims, outcome, token,
      Measurement.hash admitted.claims runner.gate.builder.backend admitted.command⟩
  let drawn := (runner.entropy state).1
  match content.mapEvent now runner.entropy state with
  | (.ok event, next) => (⟨.ok event, launched.executions, [drawn], launched.records⟩, next)
  | (.error cause, next) =>
    (aborted (.event cause) launched.executions [drawn] launched.records, next)

/-- Take one task from its manifest and its token to its event. -/
def run (runner : Runner σ ε) (manifest : TaskClaims) (token : String) (now : Instant)
    (state : σ × ε) : RunReport × σ × ε :=
  let checked := runner.gate.records manifest token
  match runner.gate.pass manifest token with
  | .error cause => (aborted cause [] [] checked, state)
  | .ok admitted =>
    let (launched, executorState) := runner.launch admitted state.1
    let launched := { launched with records := checked ++ launched.records }
    match launched.result with
    | .error cause =>
      (aborted cause launched.executions [] launched.records, executorState, state.2)
    | .ok outcome =>
      let (answer, entropyState) := runner.report admitted token now launched outcome state.2
      (answer, executorState, entropyState)

/-- A task that is handed in. -/
structure Request where
  manifest : TaskClaims
  token : String
  now : Instant
deriving Repr

/-- One run after the other over the same states. -/
def runAll (runner : Runner σ ε) : List Request → σ × ε → List RunReport × σ × ε
  | [], state => ([], state)
  | request :: rest, state =>
    let (report, next) := runner.run request.manifest request.token request.now state
    let (reports, last) := runner.runAll rest next
    (report :: reports, last)

end Runner

end Gatehouse
