import Gatehouse.CommandLine.Station
import Gatehouse.Journal.Line
import Gatehouse.Journal.Pattern
import Std.Time.DateTime.Timestamp

/-!
# The program

The command line on a real machine. Everything is decided elsewhere: here the files that
an invocation names are read into a host, randomness and the time are taken, and the
answer is printed. The permissions of a file cannot be seen from here, so a file of
secrets is taken for one that everybody may read, and is refused; a file that cannot be
read is put among the faults of the host. Commands are executed on the host that was read
in, and nothing that they write leaves it.
-/

namespace Gatehouse.Program

open CommandLine

/-- The variables of this process. -/
def bindings : IO (List (String × String)) := do
  let octets ← IO.FS.readBinFile "/proc/self/environ"
  let text := Text.Utf8.decodeLossy octets.toList
  return (text.splitOn "\x00").filterMap fun entry =>
    match entry.splitOn "=" with
    | name :: value@(_ :: _) => some (name, "=".intercalate value)
    | _ => none

/-- Take what stands at a path into a file system. -/
def loadPath (system : FileSystem) (path : String) : IO FileSystem := do
  let parent := "/".intercalate (FileSystem.names path).dropLast
  let parent := if parent.isEmpty ∧ path.startsWith "/" then "/" else parent
  let put (node : Node) (fault? : Option FileError) : FileSystem :=
    let system := (system.makeDirectories parent).toOption.getD system
    match system.resolve path with
    | .ok place =>
      let faults := fault?.toList.map fun cause => ((Access.content, place), cause)
      { system.put place node with faults := faults ++ system.faults }
    | .error _ => system
  try
    let octets ← IO.FS.readBinFile path
    return put (.file ⟨0o777, octets.toList⟩) none
  catch
    | .inappropriateType .. => return put .directory none
    | .noFileOrDirectory .. => return system
    | .permissionDenied .. => return put (.file ⟨0o777, []⟩) (some .permissionDenied)
    | cause => return put (.file ⟨0o777, []⟩) (some (.other (toString cause)))

/-- The home directory that the accounts of the machine have for who runs this process. -/
def account : IO (Option String) := do
  let fieldsOf (path separator : String) : IO (List (List String)) := do
    let octets ← IO.FS.readBinFile path
    return ((Text.Utf8.decodeLossy octets.toList).splitOn "\n").map (·.splitOn separator)
  try
    let status ← fieldsOf "/proc/self/status" "\t"
    let user? := (status.find? (·.head? == some "Uid:")).bind (·[2]?)
    let accounts ← fieldsOf "/etc/passwd" ":"
    return (accounts.find? fun fields => user?.isSome ∧ fields[2]? = user?).bind (·[5]?)
  catch _ => return none

/-- Take all files of an invocation into a host, first those that lead to the others. -/
def load (invocation : Invocation) : IO Host := do
  let host : Host := ⟨.empty, ← bindings, ← account⟩
  let first ← (invocation.paths host).foldlM loadPath host.system
  let host := { host with system := first }
  let second ← (invocation.paths host).foldlM loadPath host.system
  return { host with system := second }

/-- The time. -/
def now : IO Instant := do
  let duration := (← Std.Time.Timestamp.now).val
  return ⟨duration.second.val, duration.nano.val.toNat⟩

/-- The octets of one draw. -/
def seed : IO EventSeed := do
  let octets ← IO.getRandomBytes 16
  return Vector.ofFn fun place => octets.toList.getD place.val 0

/-- Write the journal to the directory that the settings name. -/
def keep (host : Host) (invocation : Invocation) (records : List Record) (now : Instant) :
    IO Unit := do
  match loadSettings host invocation.settingsPath with
  | .error _ => return
  | .ok settings =>
    match settings.paths.logs with
    | none => return
    | some directory =>
      IO.FS.createDirAll directory
      IO.FS.withFile (below directory (logFileName now)) .append fun file =>
        records.forM fun record => file.putStr (record.line now)

end Gatehouse.Program

open Gatehouse CommandLine in
/-- Answer to the arguments of this process. -/
def main (arguments : List String) : IO UInt32 := do
  let now ← Program.now
  let seed ← Program.seed
  let invocation := (Invocation.read arguments).toOption
  let host ← match invocation with
    | some invocation => Program.load invocation
    | none => pure ⟨.empty, [], none⟩
  let surroundings : Surroundings Unit :=
    ⟨now, fun _ => (some seed, ()), Host.executor, Pattern.isValue⟩
  let (response, _) := respond arguments surroundings (⟨host, []⟩, ())
  (← IO.getStdout).putStr response.stdout
  match response, invocation with
  | .answer answer, some invocation =>
    Program.keep host invocation answer.journal now
    answer.journal.forM fun record => IO.eprint (record.line now)
    match answer.complaint? with
    | some (.logs path cause) =>
      IO.eprintln ("tollgate: " ++ (CommandError.logs path cause).message)
    | _ => pure ()
  | .reply .misuse, _ => IO.eprintln "error: unusable arguments; try --help"
  | _, _ => pure ()
  return response.exitCode.toUInt32
