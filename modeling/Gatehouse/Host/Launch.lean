import Gatehouse.Execution.Capture
import Gatehouse.Execution.Executor
import Gatehouse.Shell.Evaluation

/-!
# Launching commands

A host runs a command as a process of its own: never through a shell, with no input, its
output kept up to a limit, and only for a limited time. A process that a signal ends has
no exit code, and so no outcome.
-/

namespace Gatehouse

/-- A machine: its files, the variables of the environment, and the home directory that its accounts
have for who runs the program, if they have one. -/
structure Host where
  system : FileSystem
  bindings : List (String × String)
  account : Option String := some "/root"
deriving Repr, Inhabited

/-- The limits of an execution. -/
structure ExecutionLimits where
  milliseconds : Nat
  outputBytes : Nat
deriving DecidableEq, Repr, Inhabited

/-- The limits that a deployment without settings has. -/
def ExecutionLimits.standard : ExecutionLimits := ⟨300000, 1048576⟩

namespace Host

/-- The value of a variable of the environment. -/
def environment (host : Host) (name : String) : Option String :=
  (host.bindings.find? (·.1 == name)).map (·.2)

/-- The home directory of who runs the program: that of the environment, or else that of the
account. An empty path names none, and it may be that neither does. -/
def home (host : Host) : Option String :=
  ((host.environment "HOME").filter (· ≠ "")).or (host.account.filter (· ≠ ""))

/-- Why a command cannot be launched. -/
inductive LaunchError
  | file (cause : FileError)
  | zeroInArgument
  | argumentsTooLong
deriving DecidableEq, Repr

/-- The words for an error. -/
def LaunchError.message : LaunchError → String
  | .file cause => cause.message
  | .zeroInArgument => "nul byte found in provided data"
  | .argumentsTooLong => "Argument list too long (os error 7)"

/-- Where programs are looked for by name. -/
def searchPath (host : Host) : List String :=
  (Program.directoriesOf ((host.environment "PATH").getD "/usr/local/bin:/usr/bin:/bin")).map
    Text.Octets.ofText

/-- The longest argument, in octets. -/
def argumentLimit : Nat := 131071

/-- The longest list of arguments, in octets. -/
def argumentsLimit : Nat := 2000000

/-- The program of a command. A text without a reader is none. -/
def program (host : Host) (name : String) (arguments : List String) :
    Except LaunchError Program := do
  if (name :: arguments).any fun argument => argument.toList.contains '\x00' then
    .error .zeroInArgument
  let found ← (Program.find host.system host.searchPath (Text.Octets.ofText name)).mapError
    LaunchError.file
  let sizes := (name :: arguments).map String.utf8ByteSize
  if sizes.any (argumentLimit < ·) ∨ argumentsLimit < sizes.foldl (· + ·) 0 then
    .error .argumentsTooLong
  match found with
  | .plain _ => .error (.file .badFormat)
  | found => return found

/-- How a process ended, if it did before the deadline, what it wrote, what became of the files,
and when its last stream was closed. -/
structure Finish where
  ending? : Option Shell.Ending
  stdout : List (List UInt8)
  stderr : List (List UInt8)
  system : FileSystem
  milliseconds : Nat
deriving Repr

/-- The session that launches a program: it has no input, and two channels for what is written. The
deadline is in milliseconds. -/
def launcher (host : Host) (deadline : Nat) : Shell.Session where
  system := host.system
  deadline := 1000 * deadline
  clock := 0
  patience := Shell.Runner.patience
  fresh := Shell.Builtin.firstProcess
  streams := []
  written := []
  cycles := []
  holds := []
  deliveries := []
  living := [Shell.Builtin.firstProcess - 1]
  identity := Shell.Builtin.firstProcess - 1
  process := Shell.Builtin.firstProcess - 1
  name := ""
  arguments := []
  bindings := []
  functions := []
  documents := []
  nextDocument := 0
  options := []
  traps := []
  status := 0
  jobs := []
  lastJob := none
  descriptors := [(0, .stream 0), (1, .channel Shell.Machine.outputChannel),
    (2, .channel Shell.Machine.reportChannel)]
  line := 0
  functionLine := 0
  frames := []
  loops := 0
  command := none
  tested := false
  isLast := false
  outputStatus := 0
  trapStatus := none
  mask := 0o022
  control := .goOn

/-- Run a program with its arguments, up to a deadline. -/
def runProgram (host : Host) (deadline : Nat) (program : Program) (arguments : List String) :
    Finish :=
  let environment := host.bindings.map fun (name, value) =>
    (Text.Octets.ofText name, Text.Octets.ofText value)
  let (ending, done) := (Shell.Runner.program (Shell.Runner.ofDepth Shell.Runner.depth) environment
    (arguments.map Text.Octets.ofText) 8 program).run (host.launcher deadline)
  let closing (time channel : Nat) : Nat := Shell.Session.closing done.toMachine channel time
  { ending? := if done.control == .stopped then none else some ending
    stdout := Shell.Session.onChannel done.toMachine Shell.Machine.outputChannel
    stderr := Shell.Session.onChannel done.toMachine Shell.Machine.reportChannel
    system := done.system
    milliseconds := [Shell.Machine.outputChannel, Shell.Machine.reportChannel].foldl closing
      done.clock / 1000 }

/-- What the reader of a channel is given. A write of nothing gives it nothing to read; a read of
nothing is the end. -/
def reads (writes : List (List UInt8)) : List (List UInt8) := writes.filter (!·.isEmpty)

/-- The outcome of a process, or why it has none. A process is never faster than its limit is
short, and one whose streams are still open has not ended. -/
def outcome (limits : ExecutionLimits) (finish : Finish) : Except ExecutionError Outcome :=
  let timeout := ExecutionError.timeout (limits.milliseconds / 1000)
  if limits.milliseconds ≤ finish.milliseconds then .error timeout
  else match finish.ending? with
    | none => .error timeout
    | some (.killed signal) =>
      .error (.launchFailed ("process ended without exit status (" ++ signal.describe ++ ")"))
    | some (.exited status) =>
      let stdout := Capture.ofChunks limits.outputBytes (reads finish.stdout)
      let stderr := Capture.ofChunks limits.outputBytes (reads finish.stderr)
      .ok {
        exitCode := Int32.ofNat status
        stdout := stdout.text
        stderr := stderr.text
        stdoutTruncated := stdout.truncated
        stderrTruncated := stderr.truncated
        milliseconds := finish.milliseconds }

/-- Run a command on a host, which its files remember. -/
def execute (limits : ExecutionLimits) (command : Command) (host : Host) :
    Except ExecutionError Outcome × Host :=
  if command.isEmpty then (.error .emptyCommand, host)
  else
    let name := command.program?.getD ""
    match host.program name command.arguments with
    | .error cause => (.error (.launchFailed (name ++ ": " ++ cause.message)), host)
    | .ok program =>
      let finish := host.runProgram limits.milliseconds program command.arguments
      (outcome limits finish, { host with system := finish.system })

/-- What the journal says of a command that ran to its end. -/
def finishedRecord (command : Command) (outcome : Outcome) : Record where
  level := .debug
  target := "tollgate::executor::process"
  message := "sandboxed command finished"
  fields := [
    ("program", .text (command.program?.getD "")),
    ("exit_code", .ofInt outcome.exitCode.toInt),
    ("duration_ms", .ofNat outcome.milliseconds),
    ("stdout_truncated", .bool outcome.stdoutTruncated),
    ("stderr_truncated", .bool outcome.stderrTruncated)]

/-- The executor that runs commands on a host. -/
def executor (limits : ExecutionLimits) : Executor Host where
  execute := execute limits
  records command outcome := [finishedRecord command outcome]

end Host

end Gatehouse
