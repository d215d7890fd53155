import Gatehouse.Json.Fault
import Gatehouse.Run.Error
import Gatehouse.Secrets
import Gatehouse.Settings.File

/-!
# Failures of the command line

Why an invocation prints nothing. Every cause has an exit code between 2 and 7, apart from two
faults of the journal that stop the program at once: a filter that nothing can be made of, and a
file for its lines that cannot be opened. A cause that comes before the verb is looked at has no
tag. The text of a failure is a chain of messages, the outer one first.
-/

namespace Gatehouse.CommandLine

/-- Why a document that a path names cannot be used. -/
inductive DocumentError (ε : Type)
  | unreadable (cause : FileError)
  | unusable (cause : ε)
deriving Repr

/-- What is said where a file is looked for in the home directory and there is none. -/
def homelessMessage : String := "cannot determine home directory"

/-- Why there are no settings. A file that was asked for by an argument is named in other words
than one that was looked for. -/
inductive SettingsLoadError
  | homeless
  | unreadable (path : String) (cause : FileError)
  | requestedUnusable (path : String) (cause : SettingsFileError)
  | foundUnusable (path : String) (cause : SettingsFileError)
  | invalid (cause : SettingsError)
deriving DecidableEq, Repr

/-- The words for an error, the outermost cause first. -/
def SettingsLoadError.messages : SettingsLoadError → List String
  | .homeless => [homelessMessage]
  | .unreadable path cause => ["failed to read config at " ++ path ++ ": " ++ cause.message]
  | .requestedUnusable path cause =>
    ["failed to parse config at " ++ path ++ ": " ++ cause.message]
  | .foundUnusable path cause => ["failed to parse " ++ path, cause.message]
  | .invalid cause => [cause.message]

/-- Why there are no secrets. Their file may have no place, or be one that the machine does not let
the program look at, or be refused for its mode or its content. -/
inductive SecretsLoadError
  | homeless
  | uninspected (path : String) (cause : FileError)
  | unreadable (path : String) (cause : FileError)
  | refused (path : String) (cause : SecretsError)
deriving DecidableEq, Repr

/-- The words for an error, the outermost cause first. That a file cannot be opened is said once by
the reader of entries and once by the machine. -/
def SecretsLoadError.messages : SecretsLoadError → List String
  | .homeless => [homelessMessage]
  | .uninspected path cause => ["failed to inspect secrets file " ++ path, cause.message]
  | .unreadable path cause =>
    ["failed to read secrets at " ++ path, cause.message, cause.message]
  | .refused path cause => cause.messages path

/-- Why an invocation fails. -/
inductive CommandError
  | tornFilter
  | settings (cause : SettingsLoadError)
  | logs (path : String) (cause : FileError)
  | logFile (path : String) (cause : FileError)
  | secrets (cause : SecretsLoadError)
  | manifest (path : String) (cause : DocumentError Json.Fault)
  | tokenFile (path : String) (cause : FileError)
  | publicKey (cause : VerifierSettings.KeyFileError)
  | secretAbsent (name : String)
  | privateKeyAbsent
  | privateKeyFile (path : String) (cause : FileError)
  | privateKeyUnusable (path : String)
  | homeless
  | registry (path : String) (cause : DocumentError Json.Fault)
  | sandbox (cause : SandboxError)
  | verification (cause : TokenError)
  | issuing (cause : TokenError)
  | run (cause : RunError)
deriving Repr

namespace CommandError

/-- The stable tag of a failure. -/
def kind : CommandError → Option String
  | .tornFilter | .settings _ | .logs .. | .logFile .. | .secrets _ => none
  | .manifest .. | .tokenFile .. | .publicKey _ | .secretAbsent _ | .privateKeyAbsent
  | .privateKeyFile .. | .privateKeyUnusable _ | .homeless | .sandbox _ => some "invalid_input"
  | .registry .. => some "registry_unavailable"
  | .verification cause | .issuing cause => some cause.kind
  | .run cause => some cause.kind

/-- The exit code of a failure. Signing without a key is a fault of the input. -/
def exitCode : CommandError → UInt8
  | .tornFilter | .logFile .. => 101
  | .settings _ | .logs .. | .secrets _ => 2
  | .manifest .. | .tokenFile .. | .publicKey _ | .secretAbsent _ | .privateKeyAbsent
  | .privateKeyFile .. | .privateKeyUnusable _ | .homeless | .sandbox _ => 2
  | .registry .. => 4
  | .verification _ => 3
  | .issuing .missingKeyMaterial => 2
  | .issuing _ => 7
  | .run cause => cause.exitCode

/-- What is said of a document. Where it breaks its own grammar is not said. -/
def documentMessages {ε : Type} (what path : String) : DocumentError ε → List String
  | .unreadable cause => ["failed to read " ++ what ++ " at " ++ path ++ ": " ++ cause.message]
  | .unusable _ => ["failed to parse " ++ what ++ " at " ++ path]

/-- The messages of a failure. A mismatch has one message, the other failures of a run have the
message of the run and that of its stage. -/
def messages : CommandError → List String
  | .tornFilter => ["the filter of the journal ends inside a character"]
  | .settings cause => cause.messages
  | .logs path cause => ["failed to create logs directory " ++ path ++ ": " ++ cause.message]
  | .logFile path cause => ["failed to open log file " ++ path ++ ": " ++ cause.message]
  | .secrets cause => cause.messages
  | .manifest path cause => documentMessages "manifest" path cause
  | .tokenFile path cause => ["failed to read token at " ++ path, cause.message]
  | .publicKey cause => cause.messages
  | .secretAbsent name => ["no HS256 secret in $" ++ name]
  | .privateKeyAbsent => ["--private-key is required for EdDSA"]
  | .privateKeyFile path cause => ["failed to read private key at " ++ path, cause.message]
  | .privateKeyUnusable path => ["private key at " ++ path ++ " is not a PKCS#8 Ed25519 key"]
  | .homeless => [homelessMessage]
  | .registry path cause => documentMessages "registry" path cause
  | .sandbox cause => ["invalid sandbox configuration", cause.message]
  | .verification cause | .issuing cause => [cause.message]
  | .run (.manifest cause) => [cause.message]
  | .run cause => [cause.message, cause.causeMessage]

/-- The text of a failure. -/
def message (error : CommandError) : String := ": ".intercalate error.messages

/-- What the journal says of a failure. It has nothing to say of itself. -/
def record? (error : CommandError) : Option Record :=
  match error with
  | .tornFilter | .logs .. | .logFile .. => none
  | .settings _ => some
      ⟨.error, "tollgate", "failed to load configuration", [("error", .text error.message)]⟩
  | .secrets _ => some
      ⟨.error, "tollgate", "failed to load secrets", [("error", .text error.message)]⟩
  | _ => some
      ⟨.error, "tollgate", "tollgate failed", [
        ("kind", .text (error.kind.getD "")),
        ("exit_code", .ofNat error.exitCode.toNat),
        ("error", .text error.message)]⟩

end CommandError

end Gatehouse.CommandLine
