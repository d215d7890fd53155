import Gatehouse.CommandLine.Verbs
import Gatehouse.Journal.Filter

/-!
# The command line

From arguments to an exit code and what is printed. Standard output holds the one line
of a verb, or nothing when it fails. The journal goes elsewhere: what a filter lets
through of it is shown, and kept in the directory for logs once that is there.
-/

namespace Gatehouse.CommandLine

/-- A host with the journals that were kept on it, each record with its directory. -/
structure Station where
  host : Host
  journals : List (Place × Record)
deriving Repr, Inhabited

namespace Station

/-- The records that are kept in a directory, the earliest first. -/
def journal? (station : Station) (directory : String) : Option (List Record) :=
  match station.host.system.resolve directory with
  | .error _ => none
  | .ok place =>
    match station.host.system.node? place with
    | some .directory =>
      some (station.journals.filterMap fun (kept, record) =>
        if kept = place then some record else none)
    | _ => none

/-- Keep records in a directory, if there is one for them. -/
def keep (station : Station) (place : Option Place) (records : List Record) : Station :=
  match place with
  | none => station
  | some place => { station with journals := station.journals ++ records.map (place, ·) }

end Station

/-- What came of an invocation, with what is shown of the journal. -/
structure Answer where
  result : Except CommandError String
  executions : List Execution
  journal : List Record
deriving Repr

namespace Answer

/-- The answer of a performance, whose failure goes into the journal last. -/
def ofPerformance (filter : JournalFilter) (performance : Performance) : Answer :=
  let failure := match performance.result with
    | .ok _ => []
    | .error cause => cause.record?.toList
  ⟨performance.result, performance.executions,
    (performance.records ++ failure).filter filter.admits⟩

/-- The code that the program ends with. -/
def exitCode (answer : Answer) : UInt8 :=
  match answer.result with
  | .ok _ => 0
  | .error cause => cause.exitCode

/-- What is written for the caller; a failure writes nothing. -/
def stdout (answer : Answer) : String :=
  match answer.result with
  | .ok line => line ++ "\n"
  | .error _ => ""

/-- An answer that consists of a failure, without any journal. -/
def abort (cause : CommandError) : Answer := ⟨.error cause, [], []⟩

/-- The failure, if it is said anywhere: that there is no place for the journal is always printed,
and what stops the program at once is never mentioned. -/
def complaint? (answer : Answer) : Option CommandError :=
  match answer.result with
  | .ok _ | .error .tornFilter | .error (.logFile ..) => none
  | .error cause =>
    if cause.record?.isNone ∨ answer.journal.any (·.level == .error) then some cause else none

end Answer

namespace Invocation

variable {ε : Type}

/-- Do what an invocation asks for. Settings, journal and secrets come first, in this order, and
each of them can end it. Without settings there is a journal that is only shown. -/
def perform (invocation : Invocation) (surroundings : Surroundings ε) (state : Station × ε) :
    Answer × Station × ε :=
  let (station, seeds) := state
  match loadSettings station.host invocation.settingsPath,
      JournalFilter.ofEnvironment? surroundings.isPattern station.host.environment with
  | .error _, none => (.abort .tornFilter, state)
  | .error cause, some filter => (.ofPerformance filter (.failed (.settings cause) []), state)
  | .ok settings, filter =>
    match openJournal settings surroundings.now station.host, filter with
    | (.error cause, host), _ => (.abort cause, ⟨host, station.journals⟩, seeds)
    | (.ok _, host), none => (.abort .tornFilter, ⟨host, station.journals⟩, seeds)
    | (.ok place, host), some filter =>
      let records := secretsRecords host
      let (performance, host, seeds) := match loadSecrets host with
        | .error cause => (Performance.failed (.secrets cause) [], host, seeds)
        | .ok secrets =>
          let deployment : Deployment := ⟨settings, secrets, host⟩
          deployment.perform invocation.subcommand surroundings (host, seeds)
      let answer := Answer.ofPerformance filter
        { performance with records := records ++ performance.records }
      (answer, { station with host := host }.keep place answer.journal, seeds)

/-- The files that an invocation may read on a host. Those that only the settings name are known
once the settings are there. -/
def paths (invocation : Invocation) (host : Host) : List String :=
  let named := match invocation.subcommand with
    | .run manifest token registry => [manifest, (token.drop 1).toString] ++ registry.toList
    | .verify token => [(token.drop 1).toString]
    | .sign manifest privateKey => manifest :: privateKey.toList
  let set := match loadSettings host invocation.settingsPath with
    | .error _ => []
    | .ok settings =>
      (settingsDirectory host).toList.map settings.registryPath ++
        settings.paths.registry.toList ++ settings.verifier.publicKeyPath.toList
  (invocation.settingsPath.or (foundSettingsPath host)).toList ++ (secretsPath host).toList ++
    named ++ set

end Invocation

/-- What the program answers to its arguments. -/
inductive Response
  | reply (reply : Reply)
  | answer (answer : Answer)
deriving Repr

/-- What is printed on a question for help. -/
def helpText : String :=
  "Verify a signed task, launch its tool in a sandbox, emit an audit event.\n\n" ++
  "Usage: tollgate [--config PATH] COMMAND\n\n" ++
  "  run --manifest PATH --token TOKEN [--registry PATH]   print the audit event\n" ++
  "  verify --token TOKEN                                  print the claims\n" ++
  "  sign --manifest PATH [--private-key PATH]             print a token\n\n" ++
  "A token is given as it is, or as @PATH for the file that holds it.\n"

/-- What is written for those who ask for the version. -/
def versionText : String := "tollgate 0.1.0\n"

namespace Response

/-- The code that the program ends with. -/
def exitCode : Response → UInt8
  | .reply .help | .reply .version => 0
  | .reply .misuse => 2
  | .answer given => given.exitCode

/-- What is written for the caller. -/
def stdout : Response → String
  | .reply .help => helpText
  | .reply .version => versionText
  | .reply .misuse => ""
  | .answer given => given.stdout

end Response

/-- Answer to arguments. What cannot be read as an invocation changes nothing. -/
def respond {ε : Type} (arguments : List String) (surroundings : Surroundings ε)
    (state : Station × ε) : Response × Station × ε :=
  match Invocation.read arguments with
  | .error reply => (.reply reply, state)
  | .ok invocation =>
    let (answer, next) := invocation.perform surroundings state
    (.answer answer, next)

end Gatehouse.CommandLine
