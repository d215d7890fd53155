import Gatehouse.CommandLine.Station
import Gatehouse.Proofs.Secrets

/-!
# What an invocation prepares

Every invocation takes the same steps before its verb is looked at: the settings, the
filter of the journal, the place for it, and the secrets. Either they all succeed, and
the answer is what the verb does with what they found; or the first that fails decides,
and no verb is performed, no command is executed and no randomness is drawn. The verb
has no part in these steps, so two verbs on one station start from the same deployment.
-/

namespace Gatehouse.CommandLine

/-- What the steps in front of a verb find. -/
structure Prepared where
  filter : JournalFilter
  place : Option Place
  settings : Settings
  secrets : Secrets
  host : Host

/-- What a verb works with. -/
def Prepared.deployment (prepared : Prepared) : Deployment :=
  ⟨prepared.settings, prepared.secrets, prepared.host⟩

/-- Surroundings at the beginning of time, with the executor of the host and without randomness. -/
def Surroundings.sample : Surroundings Unit :=
  ⟨⟨0, 0⟩, fun state => (none, state), Host.executor, fun _ => true⟩

/-! ## The journal -/

/-- What comes of opening a journal: it is open, or its directory cannot be made, or the file of the
day cannot be opened in it. In the last case the directory was made all the same. -/
inductive Opens (settings : Settings) (now : Instant) (host : Host) :
    Except CommandError (Option Place) × Host → Prop
  | unasked (unset : settings.paths.logs = none) : Opens settings now host (.ok none, host)
  | opened {path : String} {made opened : FileSystem} {place : Place}
      (set : settings.paths.logs = some path)
      (directory : host.system.makeDirectories path = .ok made)
      (file : made.write (below path (logFileName now)) true [] = .ok opened) :
      Opens settings now host (.ok (some place), { host with system := opened })
  | unmade {path : String} {cause : FileError} (set : settings.paths.logs = some path)
      (directory : host.system.makeDirectories path = .error cause) :
      Opens settings now host (.error (.logs path cause), host)
  | unopened {path : String} {made : FileSystem} {cause : FileError}
      (set : settings.paths.logs = some path)
      (directory : host.system.makeDirectories path = .ok made)
      (file : made.write (below path (logFileName now)) true [] = .error cause) :
      Opens settings now host
        (.error (.logFile (below path (logFileName now)) cause), { host with system := made })

variable {ε : Type} {settings : Settings} {now : Instant} {host opened : Host}

/-- A directory that cannot be made is all that comes of opening a journal. -/
theorem openJournal_of_unmade {path : String} {cause : FileError}
    (set : settings.paths.logs = some path)
    (unmade : host.system.makeDirectories path = .error cause) :
    openJournal settings now host = (.error (.logs path cause), host) := by
  simp only [openJournal, set, unmade]

/-- A file that cannot be opened in a directory that was made ends the opening of a journal. -/
theorem openJournal_of_unopened {path : String} {made : FileSystem} {cause : FileError}
    (set : settings.paths.logs = some path)
    (directory : host.system.makeDirectories path = .ok made)
    (unopened : made.write (below path (logFileName now)) true [] = .error cause) :
    openJournal settings now host =
      (.error (.logFile (below path (logFileName now)) cause), { host with system := made }) := by
  simp only [openJournal, set, directory, unopened]

/-- Opening a journal comes to one of these ends, by whether one is asked for, its directory can be
made, and its file opened. -/
theorem opens_openJournal (settings : Settings) (now : Instant) (host : Host) :
    Opens settings now host (openJournal settings now host) := by
  cases set : settings.paths.logs with
  | none =>
    simp only [openJournal, set]
    exact .unasked set
  | some path =>
    cases directory : host.system.makeDirectories path with
    | error cause =>
      rw [openJournal_of_unmade set directory]
      exact .unmade set directory
    | ok made =>
      cases file : made.write (below path (logFileName now)) true [] with
      | error cause =>
        rw [openJournal_of_unopened set directory file]
        exact .unopened set directory file
      | ok opened =>
        simp only [openJournal, set, directory, file]
        exact .opened set directory file

/-- Opening a journal touches files only: the variables and the accounts of the host stay, and with
them its home directory. -/
theorem home_of_openJournal {result : Except CommandError (Option Place)}
    (done : openJournal settings now host = (result, opened)) : opened.home = host.home := by
  have ends := done ▸ opens_openJournal settings now host
  cases ends <;> rfl

/-- Where no home directory is known there are no secrets, not even the empty ones of a file that is
missing. -/
theorem loadSecrets_of_homeless (homeless : host.home = none) :
    loadSecrets host = .error .homeless := by
  simp only [loadSecrets, secretsPath, settingsDirectory, homeless, Option.map_none]

/-- The secrets that a host gives to an invocation: none where no file is found, or all the entries
of the file that is found. Nothing may stand in the way of that file, neither of asking for its mode
nor of reading it, and its mode has to keep others out. -/
inductive FindsSecrets (host : Host) : Secrets → Prop
  | missing {path : String} (sought : secretsPath host = some path)
      (absent : secretsFile? host path = none) : FindsSecrets host .none
  | loaded {path : String} {place : Place} {file : File} {entries : List EnvFile.Entry}
      (sought : secretsPath host = some path)
      (found : secretsFile? host path = some (place, file))
      (inspected : host.system.fault? .permissions place = none)
      (opened : host.system.fault? .content place = none)
      (holds : Secrets.Holds (EnvFile.read host.environment) (some file) entries) :
      FindsSecrets host (.ofEntries entries)

/-- A file that others may touch is refused for its mode as soon as that is known. Whether it could
have been read plays no part, and neither does what it holds. -/
theorem secretsIn_of_broad {path : String} {place : Place} {file : File}
    (inspected : host.system.fault? .permissions place = none)
    (broad : file.mode &&& 0o077 ≠ 0) :
    secretsIn host path place file =
      .error (.refused path (.broadMode (file.mode &&& 0o777))) := by
  cases opened : host.system.fault? .content place with
  | some cause =>
    simp only [secretsIn, inspected, opened, if_pos (Secrets.isBroad_iff.mpr broad),
      Secrets.permissions_eq]
  | none =>
    have refused : Secrets.load host.environment (some file) =
        .error (.broadMode (file.mode &&& 0o777)) := Secrets.ofFile_of_broad broad
    simp only [secretsIn, inspected, opened, refused, mapError_error]

/-- The secrets of an invocation are those that its host gives: there are some exactly where no file
is found, or one that can be inspected and read, that keeps others out and whose every entry is in
order. -/
theorem loadSecrets_eq_ok_iff {secrets : Secrets} :
    loadSecrets host = .ok secrets ↔ FindsSecrets host secrets := by
  constructor
  · intro read
    cases sought : secretsPath host with
    | none =>
      simp only [loadSecrets, sought] at read
      cases read
    | some path =>
      cases found : secretsFile? host path with
      | none =>
        simp only [loadSecrets, sought, found] at read
        cases read
        exact .missing sought found
      | some seen =>
        obtain ⟨place, file⟩ := seen
        simp only [loadSecrets, sought, found] at read
        unfold secretsIn at read
        split at read
        · cases read
        · split at read <;> cases read
        · next inspected opened =>
          obtain ⟨entries, holds, rfl⟩ := Secrets.loadBy_eq_ok_iff.mp (ok_of_mapError read)
          exact .loaded sought found inspected opened holds
  · intro finds
    cases finds with
    | missing sought absent => simp only [loadSecrets, sought, absent]
    | loaded sought found inspected opened holds =>
      have read := Secrets.loadBy_eq_ok_iff.mpr ⟨_, holds, rfl⟩
      simp only [loadSecrets, sought, found, secretsIn, inspected, opened, Secrets.load, read,
        mapError_ok]

namespace Station

variable {station : Station} {surroundings : Surroundings ε} {requested : Option String}

/-- The steps in front of a verb succeed on a station, with a file of settings if one is
requested. Of the surroundings only the time and the judge of patterns have a part in them: the one
names the file of the journal, the other decides what its filter can be. -/
structure Prepares (station : Station) (surroundings : Surroundings ε)
    (requested : Option String) (prepared : Prepared) : Prop where
  settings : loadSettings station.host requested = .ok prepared.settings
  filter : JournalFilter.ofEnvironment? surroundings.isPattern station.host.environment =
    some prepared.filter
  journal : openJournal prepared.settings surroundings.now station.host =
    (.ok prepared.place, prepared.host)
  secrets : loadSecrets prepared.host = .ok prepared.secrets

/-- The first of the steps in front of a verb that fails. A filter that nothing can be made of is
found before settings that cannot be used, but behind a journal that cannot be opened. -/
inductive Fails (station : Station) (surroundings : Surroundings ε) (requested : Option String) :
    CommandError → Prop
  | settings {cause : SettingsLoadError} {filter : JournalFilter}
      (unloaded : loadSettings station.host requested = .error cause)
      (filtered : JournalFilter.ofEnvironment? surroundings.isPattern station.host.environment =
        some filter) :
      Fails station surroundings requested (.settings cause)
  | journal {settings : Settings} {cause : CommandError} {host : Host}
      (loaded : loadSettings station.host requested = .ok settings)
      (unopened : openJournal settings surroundings.now station.host = (.error cause, host)) :
      Fails station surroundings requested cause
  | filter
      (torn : JournalFilter.ofEnvironment? surroundings.isPattern station.host.environment = none)
      (reached : ∀ settings, loadSettings station.host requested = .ok settings →
        ∃ place host, openJournal settings surroundings.now station.host = (.ok place, host)) :
      Fails station surroundings requested .tornFilter
  | secrets {settings : Settings} {filter : JournalFilter} {place : Option Place} {host : Host}
      {cause : SecretsLoadError} (loaded : loadSettings station.host requested = .ok settings)
      (filtered : JournalFilter.ofEnvironment? surroundings.isPattern station.host.environment =
        some filter)
      (opened : openJournal settings surroundings.now station.host = (.ok place, host))
      (unread : loadSecrets host = .error cause) :
      Fails station surroundings requested (.secrets cause)

/-- The steps in front of a verb succeed, or one of them is the first that fails. They are gone
through in the order in which they are taken, with the filter in two places: settings that cannot be
used are reported under it, and otherwise it is made when the journal is open. -/
theorem prepares_or_fails (station : Station) (surroundings : Surroundings ε)
    (requested : Option String) :
    (∃ prepared, station.Prepares surroundings requested prepared) ∨
      ∃ cause, station.Fails surroundings requested cause := by
  cases filtered : JournalFilter.ofEnvironment? surroundings.isPattern station.host.environment
    with
  | none =>
    cases loaded : loadSettings station.host requested with
    | error cause =>
      refine .inr ⟨_, .filter filtered fun settings found => ?_⟩
      cases loaded.symm.trans found
    | ok settings =>
      cases opened : openJournal settings surroundings.now station.host with
      | mk result host =>
        cases result with
        | error cause => exact .inr ⟨_, .journal loaded opened⟩
        | ok place =>
          refine .inr ⟨_, .filter filtered fun other found => ?_⟩
          obtain rfl := Except.ok.inj (loaded.symm.trans found)
          exact ⟨place, host, opened⟩
  | some filter =>
    cases loaded : loadSettings station.host requested with
    | error cause => exact .inr ⟨_, .settings loaded filtered⟩
    | ok settings =>
      cases opened : openJournal settings surroundings.now station.host with
      | mk result host =>
        cases result with
        | error cause => exact .inr ⟨_, .journal loaded opened⟩
        | ok place =>
          cases read : loadSecrets host with
          | error cause => exact .inr ⟨_, .secrets loaded filtered opened read⟩
          | ok secrets =>
            exact .inl ⟨⟨filter, place, settings, secrets, host⟩, loaded, filtered, opened, read⟩

/-- There is one preparation of a station, because each step has one result. -/
theorem Prepares.unique {prepared other : Prepared}
    (prepares : station.Prepares surroundings requested prepared)
    (otherwise : station.Prepares surroundings requested other) : prepared = other := by
  obtain ⟨filter, place, settings, secrets, host⟩ := prepared
  obtain ⟨otherFilter, otherPlace, otherSettings, otherSecrets, otherHost⟩ := other
  obtain rfl : settings = otherSettings :=
    Except.ok.inj (prepares.settings.symm.trans otherwise.settings)
  obtain rfl : filter = otherFilter :=
    Option.some.inj (prepares.filter.symm.trans otherwise.filter)
  obtain ⟨samePlace, rfl⟩ := Prod.mk.inj (prepares.journal.symm.trans otherwise.journal)
  obtain rfl : place = otherPlace := Except.ok.inj samePlace
  obtain rfl : secrets = otherSecrets :=
    Except.ok.inj (prepares.secrets.symm.trans otherwise.secrets)
  rfl

/-- Where the directory for logs cannot be made nothing is prepared. -/
theorem not_prepares_of_unmade {prepared : Prepared} {settings : Settings} {path : String}
    {cause : FileError} (loaded : loadSettings station.host requested = .ok settings)
    (set : settings.paths.logs = some path)
    (unmade : station.host.system.makeDirectories path = .error cause) :
    ¬ station.Prepares surroundings requested prepared := by
  intro prepares
  obtain rfl := Except.ok.inj (prepares.settings.symm.trans loaded)
  cases (Prod.mk.inj (prepares.journal.symm.trans (openJournal_of_unmade set unmade))).1

/-- Where no home directory is known nothing is prepared: there is no place for the secrets. -/
theorem not_prepares_of_homeless {prepared : Prepared} (homeless : station.host.home = none) :
    ¬ station.Prepares surroundings requested prepared := by
  intro prepares
  have stays := (home_of_openJournal prepares.journal).trans homeless
  cases prepares.secrets.symm.trans (loadSecrets_of_homeless stays)

/-- A station with a secret in its environment and a manifest in the directory of relative paths,
and nothing else. -/
def sample : Station where
  host := {
    system := {
      nodes := [
        (["work"], .directory),
        (["work", "task.json"], .file ⟨0o644, Text.Utf8.encode
          "\x7b\"task_context\":[\"t\",\"n\"],\"target_urn\":\"u\",\"tool_sha256\":\"d\"\x7d"⟩)]
      here := ["work"] }
    bindings := [("TOLLGATE_HMAC_SECRET", "k")] }
  journals := []

/-- What is prepared on it: there are no settings and no secrets but the defaults. -/
def samplePrepared : Prepared := ⟨.downTo .info, none, {}, .none, sample.host⟩

/-- It is prepared at any time, and whatever a pattern is: it sets no filter and asks for no
journal. -/
theorem sample_prepares (surroundings : Surroundings ε) :
    sample.Prepares surroundings none samplePrepared :=
  ⟨rfl, rfl, rfl, rfl⟩

/-- Its manifest can be read. -/
theorem sample_manifest :
    ∃ claims, samplePrepared.deployment.manifest "task.json" = .ok claims :=
  exists_ok_of_isOk (by decide +kernel)

/-- The sample station with a file of settings that puts the directory for logs where the manifest
is. -/
def misplaced : Station where
  host := { sample.host with
    system := { sample.host.system with
      nodes := (["work", "config.toml"],
        .file ⟨0o644, Text.Utf8.encode "paths.logs_dir=\"task.json\""⟩) ::
          sample.host.system.nodes } }
  journals := []

/-- What a verb would work with there. -/
def misplacedDeployment : Deployment :=
  ⟨{ paths := { logs := some "task.json" } }, .none, misplaced.host⟩

/-- The file of settings can be read, and says what it should. -/
theorem misplaced_settings :
    loadSettings misplaced.host (some "config.toml") = .ok misplacedDeployment.settings :=
  ok_of_toOption (by decide +kernel)

/-- The directory for logs cannot be made, because a file stands in its place. -/
theorem misplaced_unmade :
    misplaced.host.system.makeDirectories "task.json" = .error .alreadyExists :=
  rfl

/-- The manifest can be read all the same, before and after. -/
theorem misplaced_manifest : ∃ claims, misplacedDeployment.manifest "task.json" = .ok claims :=
  exists_ok_of_isOk (by decide +kernel)

end Station

namespace Answer

variable {answer : Answer} {line : String} {cause : CommandError}

/-- The tag of a failure, if an answer is one and has a tag. -/
def kind? (answer : Answer) : Option String :=
  match answer.result with
  | .ok _ => none
  | .error cause => cause.kind

/-- A line that is printed ends the program with code zero. -/
theorem exitCode_of_ok (printed : answer.result = .ok line) : answer.exitCode = 0 := by
  rw [exitCode, printed]

/-- It is printed with a line break behind it, and nothing else is. -/
theorem stdout_of_ok (printed : answer.result = .ok line) : answer.stdout = line ++ "\n" := by
  rw [stdout, printed]

/-- There is no tag, as there is no failure. -/
theorem kind?_of_ok (printed : answer.result = .ok line) : answer.kind? = none := by
  rw [kind?, printed]

/-- A failure ends the program with its own code. -/
theorem exitCode_of_error (failed : answer.result = .error cause) :
    answer.exitCode = cause.exitCode := by
  rw [exitCode, failed]

/-- Nothing is printed then. -/
theorem stdout_of_error (failed : answer.result = .error cause) : answer.stdout = "" := by
  rw [stdout, failed]

/-- The tag is that of the failure, which may have none. -/
theorem kind?_of_error (failed : answer.result = .error cause) : answer.kind? = cause.kind := by
  rw [kind?, failed]

end Answer

namespace Invocation

variable {invocation : Invocation} {station : Station} {surroundings : Surroundings ε}

/-- An invocation whose preparation succeeds answers what its verb does, with the records of the
preparation in front of those of the verb, and keeps the journal where that was opened. -/
theorem perform_of_prepares {prepared : Prepared}
    (prepares : station.Prepares surroundings invocation.settingsPath prepared) (seeds : ε) :
    invocation.perform surroundings (station, seeds) =
      let performed := prepared.deployment.perform invocation.subcommand surroundings
        (prepared.host, seeds)
      let answer := Answer.ofPerformance prepared.filter { performed.1 with
        records := secretsRecords prepared.host ++ performed.1.records }
      (answer, { station with host := performed.2.1 }.keep prepared.place answer.journal,
        performed.2.2) := by
  simp only [perform, prepares.settings, prepares.filter, prepares.journal, prepares.secrets,
    Prepared.deployment]

/-- The result of an invocation is that of its verb, and so are its executions. -/
theorem result_of_prepares (invocation : Invocation) {prepared : Prepared}
    (prepares : station.Prepares surroundings invocation.settingsPath prepared) (seeds : ε) :
    let performed := prepared.deployment.perform invocation.subcommand surroundings
      (prepared.host, seeds)
    let answer := (invocation.perform surroundings (station, seeds)).1
    answer.result = performed.1.result ∧ answer.executions = performed.1.executions := by
  rw [perform_of_prepares prepares]
  exact ⟨rfl, rfl⟩

/-- An invocation whose preparation fails has that failure for its answer. Nothing is executed, and
no seed is drawn. -/
theorem perform_of_fails {cause : CommandError}
    (fails : station.Fails surroundings invocation.settingsPath cause) (seeds : ε) :
    let answer := invocation.perform surroundings (station, seeds)
    answer.1.result = .error cause ∧ answer.1.executions = [] ∧ answer.2.2 = seeds := by
  cases fails with
  | settings unloaded filtered =>
    simp only [perform, unloaded, filtered]
    exact ⟨rfl, rfl, trivial⟩
  | journal loaded unopened =>
    simp only [perform, loaded, unopened]
    exact ⟨rfl, rfl, trivial⟩
  | filter torn reached =>
    cases loaded : loadSettings station.host invocation.settingsPath with
    | error cause =>
      simp only [perform, loaded, torn]
      exact ⟨rfl, rfl, trivial⟩
    | ok settings =>
      obtain ⟨place, host, opened⟩ := reached settings loaded
      simp only [perform, loaded, opened, torn]
      exact ⟨rfl, rfl, trivial⟩
  | secrets loaded filtered opened unread =>
    simp only [perform, loaded, filtered, opened, unread]
    exact ⟨rfl, rfl, trivial⟩

end Invocation

end Gatehouse.CommandLine
