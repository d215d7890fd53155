import Gatehouse.CommandLine.Error
import Gatehouse.Host.Launch
import Gatehouse.Journal.Line
import Gatehouse.Settings.Override
import Gatehouse.Token.Issue

/-!
# Deployments

What an invocation finds on its host: the settings, a place for the journal, and the
secrets. All three are there before the verb is looked at. A file that was asked for by
an argument has to exist; one that was looked for may be missing. Where no home directory
is known nothing can be looked for in it: that is an error of its own.
-/

namespace Gatehouse.CommandLine

/-- A path below a directory. -/
def below (directory name : String) : String :=
  if directory.isEmpty ∨ directory.toList.getLast? = some '/' then directory ++ name
  else directory ++ "/" ++ name

/-- The directory of settings, secrets and the registry, if a home directory is known. -/
def settingsDirectory (host : Host) : Option String := host.home.map (below · ".tollgate")

/-- The settings of a text, with the overrides of an environment, if they are valid. -/
def settingsOfText (environment : Environment) (text : String)
    (unusable : SettingsFileError → SettingsLoadError) : Except SettingsLoadError Settings := do
  let settings ← (Settings.read text).mapError unusable
  let settings := settings.override environment
  settings.validate.mapError .invalid
  return settings

/-- The file of settings that is looked for when no argument names one: the one that a variable
names, or the one in the directory of settings. -/
def foundSettingsPath (host : Host) : Option String :=
  (host.environment "TOLLGATE_CONFIG_PATH").or
    ((settingsDirectory host).map (below · "config.toml"))

/-- The settings on a host: of the file that an argument names, or of the one in its place. Without
a file there the defaults hold, which is what an empty text says; without a place for it there are
no settings. -/
def loadSettings (host : Host) (requested : Option String) : Except SettingsLoadError Settings :=
  match requested with
  | some path =>
    match host.system.readText path with
    | .ok text => settingsOfText host.environment text (.requestedUnusable path)
    | .error cause => .error (.unreadable path cause)
  | none =>
    match foundSettingsPath host with
    | none => .error .homeless
    | some path =>
      match host.system.readText path with
      | .ok text => settingsOfText host.environment text (.foundUnusable path)
      | .error .notFound => settingsOfText host.environment "" (.foundUnusable path)
      | .error cause => .error (.unreadable path cause)

/-- Make the directory for logs and open the file of the day in it, if the settings name one, and
say where it is. What was made stays there even if the file cannot be opened. -/
def openJournal (settings : Settings) (now : Instant) (host : Host) :
    Except CommandError (Option Place) × Host :=
  match settings.paths.logs with
  | none => (.ok none, host)
  | some path =>
    match host.system.makeDirectories path with
    | .error cause => (.error (.logs path cause), host)
    | .ok system =>
      let file := below path (logFileName now)
      match system.write file true [] with
      | .error cause => (.error (.logFile file cause), { host with system := system })
      | .ok opened =>
        let place := match opened.resolve path with
          | .ok place => place
          | .error _ => opened.here
        (.ok (some place), { host with system := opened })

/-- Where the secrets are, if a home directory is known. -/
def secretsPath (host : Host) : Option String := (settingsDirectory host).map (below · ".env")

/-- What is found where the secrets are looked for, with its place. What is no file may be touched
by others. A path that cannot be followed, or not be asked about, counts as one where nothing is. -/
def secretsFile? (host : Host) (path : String) : Option (Place × File) :=
  match host.system.resolve path with
  | .error _ => none
  | .ok place =>
    match host.system.node? place, host.system.fault? .presence place with
    | none, _ | _, some _ => none
    | some (.file file), none => some (place, file)
    | some _, none => some (place, ⟨0o755, []⟩)

/-- The secrets of a file that was found. Its mode is asked for first; a file that others may touch
is refused for that, and not opened. -/
def secretsIn (host : Host) (path : String) (place : Place) (file : File) :
    Except SecretsLoadError Secrets :=
  match host.system.fault? .permissions place, host.system.fault? .content place with
  | some cause, _ => .error (.uninspected path cause)
  | none, some cause =>
    if Secrets.isBroad file.mode then
      .error (.refused path (.broadMode (Secrets.permissions file.mode)))
    else .error (.unreadable path cause)
  | none, none => (Secrets.load host.environment (some file)).mapError (.refused path)

/-- The secrets on a host. Without a file there are none, but there has to be a place for it. -/
def loadSecrets (host : Host) : Except SecretsLoadError Secrets :=
  match secretsPath host with
  | none => .error .homeless
  | some path =>
    match secretsFile? host path with
    | none => .ok .none
    | some (place, file) => secretsIn host path place file

/-- What the journal says when there are no secrets. -/
def secretsRecords (host : Host) : List Record :=
  match secretsPath host with
  | none => []
  | some path =>
    match secretsFile? host path with
    | some _ => []
    | none => [⟨.debug, "tollgate::keys", "no secrets file found", [("path", .text path)]⟩]

/-- What an invocation works with. -/
structure Deployment where
  settings : Settings
  secrets : Secrets
  host : Host

namespace Deployment

/-- The variables that a deployment is under. -/
abbrev environment (deployment : Deployment) : Environment := deployment.host.environment

/-- The files of a deployment. -/
abbrev system (deployment : Deployment) : FileSystem := deployment.host.system

/-- The document in a file. -/
def document {α ε : Type} (deployment : Deployment) (path : String)
    (read : String → Except ε α) : Except (DocumentError ε) α :=
  match deployment.system.readText path with
  | .error cause => .error (.unreadable cause)
  | .ok text => (read text).mapError .unusable

/-- The claims of a manifest file. -/
def manifest (deployment : Deployment) (path : String) : Except CommandError TaskClaims :=
  (deployment.document path TaskClaims.read).mapError (.manifest path)

/-- A token without the blank characters around it: the argument itself, or the text of the file
that it names behind an at sign. -/
def token (deployment : Deployment) (argument : String) : Except CommandError String :=
  match argument.toList with
  | '@' :: path =>
    match deployment.system.readText (String.ofList path) with
    | .ok text => .ok (Text.trim text)
    | .error cause => .error (.tokenFile (String.ofList path) cause)
  | _ => .ok (Text.trim argument)

/-- The verifier that the deployment is pinned to. -/
def verifier (deployment : Deployment) : Except CommandError Verifier :=
  (deployment.settings.verifier.load deployment.secrets deployment.environment
    deployment.system).mapError .publicKey

/-- The path of the registry: of an argument, or of the settings, or in the directory of these. -/
def registryPath (deployment : Deployment) (requested : Option String) :
    Except CommandError String :=
  match requested.or deployment.settings.paths.registry, settingsDirectory deployment.host with
  | some path, _ => .ok path
  | none, some directory => .ok (deployment.settings.registryPath directory)
  | none, none => .error .homeless

/-- The records of the registry at a path. -/
def registry (deployment : Deployment) (path : String) :
    Except CommandError (List RegistryEntry) :=
  (deployment.document path Registry.read).mapError (.registry path)

/-- The builder of sandboxes. -/
def builder (deployment : Deployment) : Except CommandError Builder :=
  (Sandbox.builder deployment.settings.sandbox).mapError .sandbox

/-- The limits of an execution. -/
def limits (deployment : Deployment) : ExecutionLimits where
  milliseconds := deployment.settings.execution.timeoutSeconds.toNat * 1000
  outputBytes := deployment.settings.execution.maxOutputBytes.toNat

/-- What signs tokens. A secret may be empty here; nothing is signed with it. -/
def issuer (deployment : Deployment) (privateKey : Option String) :
    Except CommandError Issuer :=
  let settings := deployment.settings.verifier
  match settings.algorithm with
  | .hs256 =>
    match settings.secret deployment.secrets deployment.environment with
    | some secret => .ok (.hs256 (Text.Utf8.encode secret))
    | none => .error (.secretAbsent settings.secretName)
  | .edDsa =>
    match privateKey with
    | none => .error .privateKeyAbsent
    | some path =>
      match deployment.system.readText path with
      | .error cause => .error (.privateKeyFile path cause)
      | .ok text =>
        match KeyFile.signingKey? text with
        | some key => .ok (.edDsa key)
        | none => .error (.privateKeyUnusable path)

end Deployment

end Gatehouse.CommandLine
